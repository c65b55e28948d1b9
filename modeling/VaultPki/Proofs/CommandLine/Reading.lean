import VaultPki.CommandLine.Invocation
import VaultPki.Proofs.CommandLine.Scan
import VaultPki.Proofs.Record.Reading

/-!
# What a command line says

The name of a command stands among words, and switches stand in front of it and behind. What they
stand for is said here switch by switch: each option of a command has the value given with its
switch, lists keep their order, and of the options that every command has the one behind the name
counts more than the one in front, and both count more than the environment. A command line that
says something is read as just that.
-/

namespace VaultPki

open CommandLine
open Attempt (mapError_eq_ok_iff)

namespace Command

/-- The switches that a command takes beside those of every command. -/
inductive Takes : String → List Switch → Prop
  | plain {name : String} (h : name ∈ ["ca", "ca-chain", "crl", "rotate-crl", "certs", "cert",
      "revoke", "roles", "role", "delete-role", "status"]) : Takes name []
  | issue : Takes "issue" [one "common-name", many "alt-name", many "ip-san", many "uri-san",
      one "ttl", ⟨"format", none, .one fun s => (format? s).isSome⟩]
  | writeRole : Takes "write-role" [many "allowed-domain", bare "allow-subdomains", one "ttl",
      one "max-ttl", one "key-type", ⟨"key-bits", none, .one fun s => (bits? s).isSome⟩]
  | generateRoot : Takes "generate-root" [one "common-name", many "organization", many "country",
      one "ttl", one "key-type", ⟨"key-bits", none, .one fun s => (bits? s).isSome⟩,
      ⟨"max-path-length", none, .one fun s => (length? s).isSome⟩, bare "export"]
  | deleteRoot : Takes "delete-root" [bare "yes"]
  | tidy : Takes "tidy" [bare "cert-store", bare "revoked", one "safety-buffer"]
  | enable : Takes "enable" [one "description", one "default-lease-ttl", one "max-lease-ttl"]
  | disable : Takes "disable" [bare "yes"]

/-- How a format is named. -/
inductive NamesFormat : String → OutputFormat → Prop
  | text : NamesFormat "text" .text
  | json : NamesFormat "json" .json

/-- Whether a text denotes a number, in decimal and perhaps with a sign. -/
def IsNumeral (text : String) (n : Int) : Prop :=
  Text.Ascii.signedDecimal? text.toList = some n

/-- The number of bits that the values of a switch give, if there is one. -/
def GivesBits (values : List String) (bits : Option UInt32) : Prop :=
  List.Forall₂ (fun text (n : UInt32) => IsNumeral text n.toNat) values bits.toList

/-- The length of a path that the values of a switch give, if there is one. -/
def GivesLength (values : List String) (length : Option Int32) : Prop :=
  List.Forall₂ (fun text (n : Int32) => IsNumeral text n.toInt) values length.toList

/-- The command that a name stands for, with the switches given beside it and the words behind. -/
inductive IsSaidBy (given : Given) : String → List String → Command → Prop
  | ca : IsSaidBy given "ca" [] ca
  | caChain : IsSaidBy given "ca-chain" [] caChain
  | crl : IsSaidBy given "crl" [] crl
  | rotateCrl : IsSaidBy given "rotate-crl" [] rotateCrl
  | certs : IsSaidBy given "certs" [] certs
  | cert (serial : String) : IsSaidBy given "cert" [serial] (cert serial)
  | issue (role : String) {commonName ttl : Option String} {format : Option OutputFormat}
      (hc : given.valuesOf "common-name" = commonName.toList)
      (ht : given.valuesOf "ttl" = ttl.toList)
      (hf : List.Forall₂ NamesFormat (given.valuesOf "format") format.toList) :
    IsSaidBy given "issue" [role]
      (issue role commonName (given.valuesOf "alt-name") (given.valuesOf "ip-san")
        (given.valuesOf "uri-san") ttl (format.getD .text))
  | revoke (serial : String) : IsSaidBy given "revoke" [serial] (revoke serial)
  | roles : IsSaidBy given "roles" [] roles
  | role (name : String) : IsSaidBy given "role" [name] (role name)
  | writeRole (name : String) {subdomains : Bool} {ttl maxTtl keyType : Option String}
      {keyBits : Option UInt32}
      (hs : subdomains = true ↔ given.valuesOf "allow-subdomains" ≠ [])
      (ht : given.valuesOf "ttl" = ttl.toList) (hm : given.valuesOf "max-ttl" = maxTtl.toList)
      (hk : given.valuesOf "key-type" = keyType.toList)
      (hb : GivesBits (given.valuesOf "key-bits") keyBits) :
    IsSaidBy given "write-role" [name]
      (writeRole name (given.valuesOf "allowed-domain") subdomains ttl maxTtl keyType keyBits)
  | deleteRole (name : String) : IsSaidBy given "delete-role" [name] (deleteRole name)
  | generateRoot {commonName : String} {ttl keyType : Option String} {keyBits : Option UInt32}
      {maxPathLength : Option Int32} {exported : Bool}
      (hc : given.valuesOf "common-name" = [commonName])
      (ht : given.valuesOf "ttl" = ttl.toList) (hk : given.valuesOf "key-type" = keyType.toList)
      (hb : GivesBits (given.valuesOf "key-bits") keyBits)
      (hl : GivesLength (given.valuesOf "max-path-length") maxPathLength)
      (he : exported = true ↔ given.valuesOf "export" ≠ []) :
    IsSaidBy given "generate-root" []
      (generateRoot commonName (given.valuesOf "organization") (given.valuesOf "country") ttl
        keyType keyBits maxPathLength exported)
  | deleteRoot {confirmed : Bool} (hy : confirmed = true ↔ given.valuesOf "yes" ≠ []) :
    IsSaidBy given "delete-root" [] (deleteRoot confirmed)
  | tidy {store revoked : Bool} {safetyBuffer : Option String}
      (hs : store = true ↔ given.valuesOf "cert-store" ≠ [])
      (hr : revoked = true ↔ given.valuesOf "revoked" ≠ [])
      (hb : given.valuesOf "safety-buffer" = safetyBuffer.toList) :
    IsSaidBy given "tidy" [] (tidy store revoked safetyBuffer)
  | enable {description defaultTtl maxTtl : Option String}
      (hd : given.valuesOf "description" = description.toList)
      (ht : given.valuesOf "default-lease-ttl" = defaultTtl.toList)
      (hm : given.valuesOf "max-lease-ttl" = maxTtl.toList) :
    IsSaidBy given "enable" [] (enable (description.getD "") defaultTtl maxTtl)
  | disable {confirmed : Bool} (hy : confirmed = true ↔ given.valuesOf "yes" ≠ []) :
    IsSaidBy given "disable" [] (disable confirmed)
  | status : IsSaidBy given "status" [] status

end Command

namespace Invocation

/-- The switches that every command takes. -/
inductive Takes : List Switch → Prop
  | common : Takes [⟨"address", some 'a', .one anyValue⟩, ⟨"token", some 't', .one anyValue⟩,
      ⟨"mount", some 'm', .one anyValue⟩, ⟨"namespace", some 'n', .one anyValue⟩,
      ⟨"ca-cert", none, .one fun path => path != ""⟩, bare "insecure",
      ⟨"verbose", some 'v', .bare⟩, ⟨"quiet", some 'q', .bare⟩]

/-- The value of an option: that behind the name of the command, or that in front of it, or
another. -/
inductive Counts (front back : Given) (name : String) (otherwise : Option String) :
    Option String → Prop
  | behind {value : String} (hb : back.valuesOf name = [value]) :
    Counts front back name otherwise (some value)
  | inFront {value : String} (hb : back.valuesOf name = [])
      (hf : front.valuesOf name = [value]) : Counts front back name otherwise (some value)
  | neither (hb : back.valuesOf name = []) (hf : front.valuesOf name = []) :
    Counts front back name otherwise otherwise

/-- The options that switches around the name of a command and the environment give. -/
structure HasOptions (env : Environment) (front back : Given) (inv : Invocation) : Prop where
  address : Counts front back "address" (env.value? "VAULT_ADDR") inv.address
  token : Counts front back "token" (env.value? "VAULT_TOKEN") inv.token
  mount : Counts front back "mount" (some "pki") (some inv.mount)
  serverNamespace : Counts front back "namespace" (env.value? "VAULT_NAMESPACE") inv.serverNamespace
  authorityFile : Counts front back "ca-cert" (env.value? "VAULT_CACERT") inv.authorityFile
  insecure : inv.insecure = true ↔
    front.valuesOf "insecure" ≠ [] ∨ back.valuesOf "insecure" ≠ []
  quiet : inv.quiet = true ↔ front.valuesOf "quiet" ≠ [] ∨ back.valuesOf "quiet" ≠ []

/-- Whether the words of a command line say an invocation. A variable that names the file of
certificates must not be empty, unless the switch for it is given on both sides of the command. -/
inductive IsSaidBy (env : Environment) (words : List String) (inv : Invocation) : Prop
  | intro {before behind rest : List String} {front back : Given} {name : String}
      {common switches : List Switch} (hwords : words = before ++ name :: behind)
      (hcommon : Takes common) (hname : Command.Takes name switches)
      (hbefore : Reads common before front []) (hfront : front.IsAllowed)
      (hbehind : Sorts (common ++ switches) behind back rest) (hback : back.IsAllowed)
      (hcommand : inv.command.IsSaidBy back name rest) (hoptions : inv.HasOptions env front back)
      (hvariable : env.value? "VAULT_CACERT" = some "" →
        front.valuesOf "ca-cert" ≠ [] ∧ back.valuesOf "ca-cert" ≠ []) :
    IsSaidBy env words inv

end Invocation

namespace CommandLine

/-! ## Vocabularies -/

theorem isVocabulary_common : IsVocabulary commonSwitches := by
  decide

theorem isVocabulary_of_mem : ∀ form ∈ forms, IsVocabulary (commonSwitches ++ form.switches) := by
  decide

theorem forms_names : forms.Pairwise fun form form' => form.name ≠ form'.name := by
  decide

theorem looksLikeSwitch_name : ∀ form ∈ forms, looksLikeSwitch form.name.toList = false := by
  decide

theorem takes_iff {common : List Switch} : Invocation.Takes common ↔ common = commonSwitches := by
  constructor
  · intro h
    cases h
    rfl
  · rintro rfl
    exact .common

theorem takes_of_mem : ∀ form ∈ forms, Command.Takes form.name form.switches := by
  simp only [forms, List.forall_mem_cons]
  exact ⟨.plain (by decide), .plain (by decide), .plain (by decide), .plain (by decide),
    .plain (by decide), .plain (by decide), .issue, .plain (by decide), .plain (by decide),
    .plain (by decide), .writeRole, .plain (by decide), .generateRoot, .deleteRoot, .tidy, .enable,
    .disable, .plain (by decide), nofun⟩

theorem find?_form {name : String} {form : Form} :
    forms.find? (fun form => form.name == name) = some form ↔ form ∈ forms ∧ form.name = name := by
  rw [find?_eq_some_iff, beq_iff_eq]
  refine forms_names.imp fun hne heq => ?_
  rw [beq_iff_eq] at heq
  rwa [← heq, beq_eq_false_iff_ne, ne_comm]

theorem exists_form_of_takes {name : String} {switches : List Switch}
    (h : Command.Takes name switches) :
    ∃ form ∈ forms, form.name = name ∧ form.switches = switches := by
  have hfound {form : Form} (h : forms.find? (fun form => form.name == name) = some form) :
      ∃ form' ∈ forms, form'.name = name ∧ form'.switches = form.switches := by
    obtain ⟨hform, hname⟩ := find?_form.1 h
    exact ⟨form, hform, hname, rfl⟩
  cases h with
  | plain h =>
    simp only [List.mem_cons, List.not_mem_nil, or_false] at h
    rcases h with rfl | rfl | rfl | rfl | rfl | rfl | rfl | rfl | rfl | rfl | rfl <;>
      exact hfound rfl
  | issue | writeRole | generateRoot | deleteRoot | tidy | enable | disable => exact hfound rfl

/-! ## What is found and what is given -/

variable {switches : List Switch} {given : Given} {name : String} {words : List String}

theorem Found.values_adding (given : Given) (words : List String) (name : String) :
    (Found.none.adding given words).values name = given.valuesOf name := by
  rw [Found.values, Found.adding, Found.none, List.nil_append, List.filter_map, List.map_map]
  rfl

theorem Found.has_adding_iff :
    (Found.none.adding given words).has name = true ↔ given.valuesOf name ≠ [] := by
  rw [Found.has_adding, Given.valuesOf, Ne, List.map_eq_nil_iff, List.filter_eq_nil_iff]
  simp [Found.none, Found.has]

theorem Found.value?_adding (given : Given) (words : List String) (name : String) :
    (Found.none.adding given words).value? name = (given.valuesOf name).head? := by
  rw [Found.value?, Found.adding, Found.none, List.nil_append, Given.valuesOf]
  induction given with
  | nil => rfl
  | cons g given ih =>
    obtain ⟨s, value⟩ := g
    rw [List.map_cons, List.lookup_cons]
    by_cases hname : s.name = name
    · rw [List.filter_cons_of_pos (by simpa using hname)]
      simp [hname]
    · have hne : (name == s.name) = false := beq_false_of_ne (Ne.symm hname)
      rw [List.filter_cons_of_neg (by simpa using hname), ← ih, hne]

/-- Whether no switch of a name can be repeated. -/
def IsSingle (switches : List Switch) (name : String) : Prop :=
  ∀ s ∈ switches, s.name = name → s.isRepeatable = false

instance (switches : List Switch) (name : String) : Decidable (IsSingle switches name) :=
  inferInstanceAs (Decidable (∀ s ∈ switches, s.name = name → s.isRepeatable = false))

/-- Whether switches of a vocabulary are given together. -/
structure IsGivenFrom (switches : List Switch) (given : Given) : Prop where
  mem : ∀ g ∈ given, g.1 ∈ switches
  allowed : given.IsAllowed

namespace IsGivenFrom

variable (h : IsGivenFrom switches given)
include h

theorem length_valuesOf_le (hsingle : IsSingle switches name) :
    (given.valuesOf name).length ≤ 1 := by
  have honce := h.allowed.once.filter fun g => g.1.name == name
  have hmem : ∀ g ∈ given.filter fun g => g.1.name == name, g.1 ∈ switches ∧ g.1.name = name := by
    intro g hg
    obtain ⟨hg, hname⟩ := List.mem_filter.1 hg
    exact ⟨h.mem g hg, beq_iff_eq.1 hname⟩
  rw [Given.valuesOf, List.length_map]
  generalize given.filter (fun g => g.1.name == name) = named at honce hmem
  rcases named with _ | ⟨g, _ | ⟨g', rest⟩⟩
  · exact Nat.zero_le 1
  · exact Nat.le_refl 1
  · obtain ⟨hs, hname⟩ := hmem g List.mem_cons_self
    obtain ⟨hs', hname'⟩ := hmem g' (List.mem_cons_of_mem _ List.mem_cons_self)
    have hrepeatable := (List.pairwise_cons.1 honce).1 g' List.mem_cons_self
      (hname.trans hname'.symm)
    cases (hsingle _ hs' hname').symm.trans hrepeatable

/-- What is found of a switch that is given at most once. -/
theorem value?_eq_iff (words : List String) (hsingle : IsSingle switches name)
    {v : Option String} :
    (Found.none.adding given words).value? name = v ↔ given.valuesOf name = v.toList := by
  have hlength := h.length_valuesOf_le hsingle
  rw [Found.value?_adding]
  generalize given.valuesOf name = values at hlength
  rcases values with _ | ⟨value, _ | ⟨value', rest⟩⟩
  · cases v <;> simp
  · cases v <;> simp
  · simp at hlength

/-- What is found of a switch whose value is read as something else. -/
theorem bind_value?_eq_iff {α : Type} {parse : String → Option α} {R : String → α → Prop}
    (words : List String) (hparse : ∀ text a, parse text = some a ↔ R text a)
    (hv : IsVocabulary switches) {s : Switch} (hs : s ∈ switches)
    (harity : s.arity = .one fun text => (parse text).isSome) {v : Option α} :
    ((Found.none.adding given words).value? s.name).bind parse = v ↔
      List.Forall₂ R (given.valuesOf s.name) v.toList := by
  have hsingle : IsSingle switches s.name := by
    intro s' hs' hname
    have hsame := (hv.find?_name.2 ⟨hs', hname⟩).symm.trans (hv.find?_name.2 ⟨hs, rfl⟩)
    rw [Option.some.inj hsame, Switch.isRepeatable, harity]
  have haccepted : ∀ value ∈ given.valuesOf s.name, ∃ a, parse value = some a := by
    intro value hvalue
    obtain ⟨g, hg, rfl⟩ := List.mem_map.1 hvalue
    obtain ⟨hg, hname⟩ := List.mem_filter.1 hg
    have hsame := (hv.find?_name.2 ⟨h.mem g hg, beq_iff_eq.1 hname⟩).symm.trans
      (hv.find?_name.2 ⟨hs, rfl⟩)
    have haccepts := h.allowed.accepted g hg _ (Option.some.inj hsame ▸ harity)
    exact Option.isSome_iff_exists.1 haccepts
  have hlength := h.length_valuesOf_le hsingle
  rw [Found.value?_adding]
  generalize given.valuesOf s.name = values at haccepted hlength
  rcases values with _ | ⟨value, _ | ⟨value', rest⟩⟩
  · cases v <;> simp
  · obtain ⟨a, ha⟩ := haccepted value List.mem_cons_self
    rw [List.head?_cons, Option.bind_some, ha]
    cases v with
    | none => simp
    | some b =>
      rw [Option.toList_some, List.forall₂_cons, ← hparse, ha]
      simp
  · simp at hlength

end IsGivenFrom

/-! ## Values that are read -/

theorem bits?_eq_some_iff (text : String) (n : UInt32) :
    bits? text = some n ↔ Command.IsNumeral text n.toNat := by
  rw [bits?, Option.bind_eq_some_iff, Command.IsNumeral, number?]
  simp only [Record.Codec.narrowUInt32_eq_some_iff]
  exact ⟨fun ⟨m, hm, heq⟩ => heq ▸ hm, fun h => ⟨_, h, rfl⟩⟩

theorem length?_eq_some_iff (text : String) (n : Int32) :
    length? text = some n ↔ Command.IsNumeral text n.toInt := by
  rw [length?, Option.bind_eq_some_iff, Command.IsNumeral, number?]
  simp only [Record.Codec.narrowInt32_eq_some_iff]
  exact ⟨fun ⟨m, hm, heq⟩ => heq ▸ hm, fun h => ⟨_, h, rfl⟩⟩

theorem format?_eq_some_iff (text : String) (format : OutputFormat) :
    format? text = some format ↔ Command.NamesFormat text format := by
  rw [format?]
  constructor
  · intro h
    split at h
    · next htext =>
      cases h
      rw [beq_iff_eq.1 htext]
      exact .text
    · obtain ⟨hjson, h⟩ := Option.ite_none_right_eq_some.1 h
      cases h
      rw [beq_iff_eq.1 hjson]
      exact .json
  · intro h
    cases h <;> rfl

namespace IsGivenFrom

variable (h : IsGivenFrom switches given) (words : List String) (hv : IsVocabulary switches)
include h hv

theorem bits_iff (hs : keyBits ∈ switches) {bits : Option UInt32} :
    ((Found.none.adding given words).value? "key-bits").bind bits? = bits ↔
      Command.GivesBits (given.valuesOf "key-bits") bits :=
  h.bind_value?_eq_iff words bits?_eq_some_iff hv hs rfl

theorem length_iff (hs : ⟨"max-path-length", none, .one fun s => (length? s).isSome⟩ ∈ switches)
    {length : Option Int32} :
    ((Found.none.adding given words).value? "max-path-length").bind length? = length ↔
      Command.GivesLength (given.valuesOf "max-path-length") length :=
  h.bind_value?_eq_iff words length?_eq_some_iff hv hs rfl

theorem format_iff (hs : ⟨"format", none, .one fun s => (format? s).isSome⟩ ∈ switches)
    {format : Option OutputFormat} :
    ((Found.none.adding given words).value? "format").bind format? = format ↔
      List.Forall₂ Command.NamesFormat (given.valuesOf "format") format.toList :=
  h.bind_value?_eq_iff words format?_eq_some_iff hv hs rfl

end IsGivenFrom

/-! ## Commands -/

theorem has_iff (words : List String) {b : Bool} :
    (Found.none.adding given words).has name = b ↔ (b = true ↔ given.valuesOf name ≠ []) := by
  rw [← @Found.has_adding_iff given name words, Bool.eq_iff_iff]
  exact Iff.comm

/-- Whether a form makes a command of the switches and words behind its name. -/
def Form.Makes (form : Form) (given : Given) (words : List String) (command : Command) : Prop :=
  form.command? (Found.none.adding given words) = some command ∧ words.length ≤ form.room

theorem makes_plain_iff {command c : Command} :
    (plain name c).Makes given words command ↔ words = [] ∧ c = command := by
  show some c = some command ∧ words.length ≤ 0 ↔ _
  rw [Option.some.injEq, Nat.le_zero, List.length_eq_zero_iff, and_comm]

theorem makes_worded_iff {command : Command} {k : String → Found → Command} :
    (worded name switches k).Makes given words command ↔
      ∃ w, words = [w] ∧ k w (Found.none.adding given [w]) = command := by
  show (words.head?.map fun w => k w _) = some command ∧ words.length ≤ 1 ↔ _
  rcases words with _ | ⟨w, _ | ⟨w', rest⟩⟩ <;> simp

theorem makes_wordless_iff {command : Command} {command? : Found → Option Command} :
    (Form.mk name 0 switches command?).Makes given words command ↔
      words = [] ∧ command? (Found.none.adding given []) = some command := by
  show command? _ = some command ∧ words.length ≤ 0 ↔ _
  rw [Nat.le_zero, List.length_eq_zero_iff, and_comm]
  constructor <;> (rintro ⟨rfl, h⟩; exact ⟨rfl, h⟩)

/-- Whether what a form makes is what is said with its name. -/
def Form.IsSound (form : Form) : Prop :=
  ∀ given words command, IsGivenFrom (commonSwitches ++ form.switches) given →
    form.Makes given words command → command.IsSaidBy given form.name words

theorem plain_isSound {c : Command} (h : ∀ given, c.IsSaidBy given name []) :
    (plain name c).IsSound := by
  intro given words command _ hmakes
  obtain ⟨rfl, rfl⟩ := makes_plain_iff.1 hmakes
  exact h given

theorem worded_isSound {k : String → Found → Command}
    (h : ∀ given w, IsGivenFrom (commonSwitches ++ switches) given →
      (k w (Found.none.adding given [w])).IsSaidBy given name [w]) :
    (worded name switches k).IsSound := by
  intro given words command hgiven hmakes
  obtain ⟨w, rfl, rfl⟩ := makes_worded_iff.1 hmakes
  exact h given w hgiven

theorem wordless_isSound {command? : Found → Option Command}
    (h : ∀ given command, IsGivenFrom (commonSwitches ++ switches) given →
      command? (Found.none.adding given []) = some command → command.IsSaidBy given name []) :
    (Form.mk name 0 switches command?).IsSound := by
  intro given words command hgiven hmakes
  obtain ⟨rfl, hcommand⟩ := makes_wordless_iff.1 hmakes
  exact h given command hgiven hcommand

/-- Every command that is made is said. -/
theorem forms_isSound : ∀ form ∈ forms, form.IsSound := by
  simp only [forms, List.forall_mem_cons]
  refine ⟨plain_isSound fun _ => .ca, plain_isSound fun _ => .caChain, plain_isSound fun _ => .crl,
    plain_isSound fun _ => .rotateCrl, plain_isSound fun _ => .certs,
    worded_isSound fun _ w _ => .cert w, worded_isSound ?issue,
    worded_isSound fun _ w _ => .revoke w, plain_isSound fun _ => .roles,
    worded_isSound fun _ w _ => .role w, worded_isSound ?writeRole,
    worded_isSound fun _ w _ => .deleteRole w, wordless_isSound ?generateRoot,
    wordless_isSound ?deleteRoot, wordless_isSound ?tidy, wordless_isSound ?enable,
    wordless_isSound ?disable, plain_isSound fun _ => .status, nofun⟩
  case issue =>
    intro given w h
    simp only [Found.values_adding]
    apply Command.IsSaidBy.issue
    · exact (h.value?_eq_iff [w] (by decide)).1 rfl
    · exact (h.value?_eq_iff [w] (by decide)).1 rfl
    · exact (h.format_iff [w] (by decide) (by simp)).1 rfl
  case writeRole =>
    intro given w h
    simp only [Found.values_adding]
    apply Command.IsSaidBy.writeRole
    · exact (has_iff [w]).1 rfl
    · exact (h.value?_eq_iff [w] (by decide)).1 rfl
    · exact (h.value?_eq_iff [w] (by decide)).1 rfl
    · exact (h.value?_eq_iff [w] (by decide)).1 rfl
    · exact (h.bits_iff [w] (by decide) (by simp)).1 rfl
  case generateRoot =>
    intro given command h hmade
    obtain ⟨commonName, hname, rfl⟩ := Option.map_eq_some_iff.1 hmade
    simp only [Found.values_adding]
    apply Command.IsSaidBy.generateRoot
    · exact (h.value?_eq_iff [] (by decide)).1 hname
    · exact (h.value?_eq_iff [] (by decide)).1 rfl
    · exact (h.value?_eq_iff [] (by decide)).1 rfl
    · exact (h.bits_iff [] (by decide) (by simp)).1 rfl
    · exact (h.length_iff [] (by decide) (by simp)).1 rfl
    · exact (has_iff []).1 rfl
  case deleteRoot =>
    intro given command _ hmade
    cases hmade
    exact .deleteRoot ((has_iff []).1 rfl)
  case tidy =>
    intro given command h hmade
    cases hmade
    exact .tidy ((has_iff []).1 rfl) ((has_iff []).1 rfl)
      ((h.value?_eq_iff [] (by decide)).1 rfl)
  case enable =>
    intro given command h hmade
    cases hmade
    exact .enable ((h.value?_eq_iff [] (by decide)).1 rfl)
      ((h.value?_eq_iff [] (by decide)).1 rfl) ((h.value?_eq_iff [] (by decide)).1 rfl)
  case disable =>
    intro given command _ hmade
    cases hmade
    exact .disable ((has_iff []).1 rfl)

/-- Every command that is said is made by the form of its name. -/
theorem makes_of_isSaidBy {form : Form} {command : Command} (hform : form ∈ forms)
    (h : IsGivenFrom (commonSwitches ++ form.switches) given)
    (hsaid : command.IsSaidBy given form.name words) : form.Makes given words command := by
  -- The name decides which form it is, and a form can only be opened once it is known.
  generalize hname : form.name = name at hsaid
  have hfind := find?_form.2 ⟨hform, hname⟩
  cases hsaid with
  | ca | caChain | crl | rotateCrl | certs | roles | status =>
    obtain rfl := Option.some.inj hfind
    exact makes_plain_iff.2 ⟨rfl, rfl⟩
  | cert w | revoke w | role w | deleteRole w =>
    obtain rfl := Option.some.inj hfind
    exact makes_worded_iff.2 ⟨w, rfl, rfl⟩
  | issue w hc ht hf =>
    obtain rfl := Option.some.inj hfind
    refine makes_worded_iff.2 ⟨w, rfl, ?_⟩
    have hc := (h.value?_eq_iff [w] (by decide)).2 hc
    have ht := (h.value?_eq_iff [w] (by decide)).2 ht
    have hf := (h.format_iff [w] (by decide) (by simp [worded])).2 hf
    simp only [Found.values_adding, hc, ht, hf]
  | writeRole w hs ht hm hk hb =>
    obtain rfl := Option.some.inj hfind
    refine makes_worded_iff.2 ⟨w, rfl, ?_⟩
    have hs := (has_iff [w]).2 hs
    have ht := (h.value?_eq_iff [w] (by decide)).2 ht
    have hm := (h.value?_eq_iff [w] (by decide)).2 hm
    have hk := (h.value?_eq_iff [w] (by decide)).2 hk
    have hb := (h.bits_iff [w] (by decide) (by simp [worded])).2 hb
    simp only [Found.values_adding, hs, ht, hm, hk, hb]
  | @generateRoot commonName _ _ _ _ _ hc ht hk hb hl he =>
    obtain rfl := Option.some.inj hfind
    have hc := (h.value?_eq_iff [] (by decide) (v := some commonName)).2 hc
    refine makes_wordless_iff.2 ⟨rfl, Option.map_eq_some_iff.2 ⟨commonName, hc, ?_⟩⟩
    have ht := (h.value?_eq_iff [] (by decide)).2 ht
    have hk := (h.value?_eq_iff [] (by decide)).2 hk
    have hb := (h.bits_iff [] (by decide) (by simp)).2 hb
    have hl := (h.length_iff [] (by decide) (by simp)).2 hl
    have he := (has_iff []).2 he
    simp only [Found.values_adding, ht, hk, hb, hl, he]
  | deleteRoot hy =>
    obtain rfl := Option.some.inj hfind
    refine makes_wordless_iff.2 ⟨rfl, ?_⟩
    rw [(has_iff []).2 hy]
  | tidy hs hr hb =>
    obtain rfl := Option.some.inj hfind
    refine makes_wordless_iff.2 ⟨rfl, ?_⟩
    rw [(has_iff []).2 hs, (has_iff []).2 hr, (h.value?_eq_iff [] (by decide)).2 hb]
  | enable hd ht hm =>
    obtain rfl := Option.some.inj hfind
    refine makes_wordless_iff.2 ⟨rfl, ?_⟩
    rw [(h.value?_eq_iff [] (by decide)).2 hd, (h.value?_eq_iff [] (by decide)).2 ht,
      (h.value?_eq_iff [] (by decide)).2 hm]
  | disable hy =>
    obtain rfl := Option.some.inj hfind
    refine makes_wordless_iff.2 ⟨rfl, ?_⟩
    rw [(has_iff []).2 hy]

/-! ## Options of every command -/

variable {env : Environment} {inv : Invocation} {front back : Given} {form : Form}

/-- No switch of every command that has a value can be repeated. -/
theorem isSingle_common : ∀ name ∈ ["address", "token", "mount", "namespace", "ca-cert"],
    IsSingle commonSwitches name ∧
      ∀ form ∈ forms, IsSingle (commonSwitches ++ form.switches) name := by
  decide

/-- The value of an option that is found is the one that counts. -/
theorem or_common?_iff {rest : List String} {otherwise v : Option String}
    (hfront : (front.valuesOf name).length ≤ 1) (hback : (back.valuesOf name).length ≤ 1) :
    (common? (Found.none.adding front words) (Found.none.adding back rest) name).or otherwise = v ↔
      Invocation.Counts front back name otherwise v := by
  rw [common?, Found.value?_adding, Found.value?_adding]
  constructor
  · rintro rfl
    rcases hb : back.valuesOf name with _ | ⟨value, _ | ⟨_, _⟩⟩
    · rcases hf : front.valuesOf name with _ | ⟨value, _ | ⟨_, _⟩⟩
      · exact .neither hb hf
      · exact .inFront hb hf
      · simp [hf] at hfront
    · exact .behind hb
    · simp [hb] at hback
  · intro h
    cases h with
    | behind hb =>
      rw [hb]
      rfl
    | inFront hb hf =>
      rw [hb, hf]
      rfl
    | neither hb hf =>
      rw [hb, hf]
      rfl

theorem or_has_iff {rest : List String} {b : Bool} :
    ((Found.none.adding front words).has name || (Found.none.adding back rest).has name) = b ↔
      (b = true ↔ front.valuesOf name ≠ [] ∨ back.valuesOf name ≠ []) := by
  rw [← @Found.has_adding_iff front name words, ← @Found.has_adding_iff back name rest,
    ← Bool.or_eq_true, Bool.eq_iff_iff]
  exact Iff.comm

/-- An invocation is put together of its command and of the options that count. -/
theorem assemble_eq_iff {rest : List String} {command : Command} (hform : form ∈ forms)
    (hfront : IsGivenFrom commonSwitches front)
    (hback : IsGivenFrom (commonSwitches ++ form.switches) back) :
    assemble env (Found.none.adding front words) (Found.none.adding back rest) command = inv ↔
      command = inv.command ∧ inv.HasOptions env front back := by
  have hcounts {name : String} {otherwise v : Option String}
      (hname : name ∈ ["address", "token", "mount", "namespace", "ca-cert"]) :
      (common? (Found.none.adding front words) (Found.none.adding back rest) name).or otherwise =
        v ↔ Invocation.Counts front back name otherwise v := by
    obtain ⟨hsingle, hsingles⟩ := isSingle_common name hname
    exact or_common?_iff (hfront.length_valuesOf_le hsingle)
      (hback.length_valuesOf_le (hsingles form hform))
  have hmount {mount : String} :
      (common? (Found.none.adding front words) (Found.none.adding back rest) "mount").getD "pki" =
        mount ↔ Invocation.Counts front back "mount" (some "pki") (some mount) := by
    rw [← hcounts (by decide), Option.or_some, Option.some.injEq]
  obtain ⟨address, token, mount, serverNamespace, authorityFile, insecure, quiet, command'⟩ := inv
  rw [assemble, Invocation.mk.injEq, hcounts (by decide), hcounts (by decide), hmount,
    hcounts (by decide), hcounts (by decide), or_has_iff, or_has_iff]
  constructor
  · rintro ⟨ha, ht, hm, hn, hf, hi, hq, hc⟩
    exact ⟨hc, ha, ht, hm, hn, hf, hi, hq⟩
  · rintro ⟨hc, ha, ht, hm, hn, hf, hi, hq⟩
    exact ⟨ha, ht, hm, hn, hf, hi, hq, hc⟩

theorem variableFits_iff :
    variableFits env (Found.none.adding given words) = true ↔
      (env.value? "VAULT_CACERT" = some "" → given.valuesOf "ca-cert" ≠ []) := by
  rw [variableFits, Bool.or_eq_true, Found.has_adding_iff]
  cases env.value? "VAULT_CACERT" with
  | none => simp
  | some path =>
    simp only [Option.all_some, isPath, bne_iff_ne, Option.some.injEq]
    tauto

/-! ## Whole command lines -/

theorem readCommand_eq_ok_iff (hform : form ∈ forms) (hfront : IsGivenFrom commonSwitches front) :
    readCommand env (Found.none.adding front []) form words = .ok inv ↔
      ∃ back rest, Sorts (commonSwitches ++ form.switches) words back rest ∧ back.IsAllowed ∧
        inv.command.IsSaidBy back form.name rest ∧ inv.HasOptions env front back ∧
        (env.value? "VAULT_CACERT" = some "" →
          front.valuesOf "ca-cert" ≠ [] ∧ back.valuesOf "ca-cert" ≠ []) := by
  have hv := isVocabulary_of_mem form hform
  have hfits {back : Given} {rest : List String} :
      (variableFits env (Found.none.adding back rest) &&
        variableFits env (Found.none.adding front [])) = true ↔
      (env.value? "VAULT_CACERT" = some "" →
        front.valuesOf "ca-cert" ≠ [] ∧ back.valuesOf "ca-cert" ≠ []) := by
    rw [Bool.and_eq_true, variableFits_iff, variableFits_iff]
    tauto
  constructor
  · intro h
    unfold readCommand at h
    split at h
    · cases h
    · cases h
    · next behind hscan =>
      obtain ⟨back, rest, hsorts, hallowed, hroom, rfl⟩ := (scan_eq_ok_nil_iff hv).1 hscan
      have hback : IsGivenFrom (commonSwitches ++ form.switches) back := ⟨hsorts.mem, hallowed⟩
      split at h
      · cases h
      · next command hmade =>
        split at h
        · next hvariable =>
          obtain ⟨rfl, hoptions⟩ := (assemble_eq_iff hform hfront hback).1 (Except.ok.inj h)
          exact ⟨back, rest, hsorts, hallowed,
            forms_isSound form hform _ _ _ hback ⟨hmade, hroom⟩, hoptions, hfits.1 hvariable⟩
        · cases h
  · rintro ⟨back, rest, hsorts, hallowed, hsaid, hoptions, hvariable⟩
    have hback : IsGivenFrom (commonSwitches ++ form.switches) back := ⟨hsorts.mem, hallowed⟩
    obtain ⟨hmade, hroom⟩ := makes_of_isSaidBy hform hback hsaid
    rw [readCommand, (scan_eq_ok_nil_iff hv).2 ⟨back, rest, hsorts, hallowed, hroom, rfl⟩]
    simp only [hmade]
    rw [if_pos (hfits.2 hvariable), (assemble_eq_iff hform hfront hback).2 ⟨rfl, hoptions⟩]

/-- A command line is read as an invocation exactly if its words say that invocation. -/
theorem read_eq_ok_iff : read env words = .ok inv ↔ inv.IsSaidBy env words := by
  constructor
  · intro h
    unfold read at h
    split at h
    · cases h
    · cases h
    · next found name behind hscan =>
      obtain ⟨hname, before, front, rfl, hreads, hallowed, rfl⟩ :=
        (scan_eq_ok_cons_iff isVocabulary_common).1 hscan
      have hfront : IsGivenFrom commonSwitches front := ⟨hreads.mem, hallowed⟩
      split at h
      · next form hfind =>
        obtain ⟨hform, rfl⟩ := find?_form.1 hfind
        rw [mapError_eq_ok_iff, readCommand_eq_ok_iff hform hfront] at h
        obtain ⟨back, rest, hbehind, hback, hcommand, hoptions, hvariable⟩ := h
        exact ⟨rfl, takes_iff.2 rfl, takes_of_mem form hform, hreads, hallowed, hbehind, hback,
          hcommand, hoptions, hvariable⟩
      · split at h <;> cases h
  · rintro ⟨rfl, hcommon, htakes, hreads, hallowed, hbehind, hback, hcommand, hoptions, hvariable⟩
    obtain rfl := takes_iff.1 hcommon
    obtain ⟨form, hform, rfl, rfl⟩ := exists_form_of_takes htakes
    have hfront : IsGivenFrom commonSwitches _ := ⟨hreads.mem, hallowed⟩
    rw [read, (scan_eq_ok_cons_iff isVocabulary_common).2
      ⟨looksLikeSwitch_name _ hform, _, _, rfl, hreads, hallowed, rfl⟩]
    simp only [find?_form.2 ⟨hform, rfl⟩]
    rw [mapError_eq_ok_iff, readCommand_eq_ok_iff hform hfront]
    exact ⟨_, _, hbehind, hback, hcommand, hoptions, hvariable⟩

example :
    (read ⟨fun _ => none, fun _ => none⟩
      ["-qmca", "issue", "web", "--alt-name", "b", "--alt-name=a"]).map Invocation.command =
        .ok (.issue "web" none ["b", "a"] [] [] none .text) := by
  rfl

end CommandLine

end VaultPki
