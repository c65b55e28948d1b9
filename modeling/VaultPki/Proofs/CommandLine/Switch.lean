import VaultPki.CommandLine.Switch
import VaultPki.Proofs.Attempt

/-!
# Words that give switches

A switch is written by its long name or by its letter, with its value in the same word or in the
next. Here this is said without a reader, and the reader of a word takes in what is written so, and
nothing else: switches with values that they can have, again only if they can be repeated.
-/

namespace VaultPki.CommandLine

open Attempt (bind_eq_ok_iff map_eq_ok_iff)

/-! ## Switches -/

namespace Switch

variable {s : Switch} {value : String}

def takesValue (s : Switch) : Bool :=
  match s.arity with
  | .bare => false
  | _ => true

/-- Whether a switch can be given more than once. -/
def isRepeatable (s : Switch) : Bool :=
  match s.arity with
  | .many => true
  | _ => false

/-- Whether a switch can have a value. -/
def Accepts (s : Switch) (value : String) : Prop :=
  ∀ accepts, s.arity = .one accepts → accepts value = true

theorem takesValue_eq_false_iff : s.takesValue = false ↔ s.arity = .bare := by
  rw [takesValue]
  split <;> simp_all

theorem takesValue_of_ne (h : s.arity ≠ .bare) : s.takesValue = true :=
  Bool.eq_true_of_not_eq_false (mt takesValue_eq_false_iff.1 h)

theorem arity_ne_of_takesValue (h : s.takesValue = true) : s.arity ≠ .bare :=
  mt takesValue_eq_false_iff.2 (by simp [h])

end Switch

/-- Switches that are given, each with its value. That of a bare switch is empty. -/
abbrev Given := List (Switch × String)

namespace Given

variable {given : Given} {name : String}

/-- The values with which the switches of a name are given, in order. -/
def valuesOf (given : Given) (name : String) : List String :=
  (given.filter fun g => g.1.name == name).map Prod.snd

/-- Whether switches can be given together: each with a value that it can have, and again only if it
can be repeated. -/
structure IsAllowed (given : Given) : Prop where
  accepted : ∀ g ∈ given, g.1.Accepts g.2
  once : given.Pairwise fun g g' => g.1.name = g'.1.name → g'.1.isRepeatable = true

end Given

/-! ## Taking switches in -/

namespace Found

variable {f f' : Found} {s : Switch} {value w name : String} {given given' : Given}

/-- What is found when switches and words are added. -/
def adding (f : Found) (given : Given) (words : List String) : Found :=
  ⟨f.given ++ given.map fun g => (g.1.name, g.2), f.words ++ words⟩

/-- Whether switches can be given beside those that were found. -/
structure Admits (f : Found) (given : Given) : Prop where
  allowed : given.IsAllowed
  beside : ∀ g ∈ given, g.1.isRepeatable = true ∨ f.has g.1.name = false

theorem admits_nil (f : Found) : f.Admits [] :=
  ⟨⟨nofun, .nil⟩, nofun⟩

theorem has_adding (f : Found) (given : Given) (words : List String) (name : String) :
    (f.adding given words).has name = (f.has name || given.any fun g => g.1.name == name) := by
  rw [has, adding, List.any_append, List.any_map]
  rfl

theorem admits_singleton_iff :
    f.Admits [(s, value)] ↔ s.Accepts value ∧ (s.isRepeatable = true ∨ f.has s.name = false) := by
  constructor
  · intro h
    exact ⟨h.allowed.accepted _ List.mem_cons_self, h.beside _ List.mem_cons_self⟩
  · rintro ⟨haccepts, hbeside⟩
    refine ⟨⟨?_, List.pairwise_singleton _ _⟩, ?_⟩
    · exact List.forall_mem_singleton.2 haccepts
    · exact List.forall_mem_singleton.2 hbeside

theorem adding_singleton (f : Found) (s : Switch) (value : String) :
    f.adding [(s, value)] [] = { f with given := f.given ++ [(s.name, value)] } := by
  rw [adding, List.append_nil]
  rfl

theorem give_eq_ok_iff :
    f.give s value = .ok f' ↔ f.Admits [(s, value)] ∧ f.adding [(s, value)] [] = f' := by
  rw [admits_singleton_iff, adding_singleton, give, Switch.Accepts, Switch.isRepeatable]
  cases s.arity with
  | many => simp
  | bare => cases f.has s.name <;> simp
  | one accepts => cases f.has s.name <;> cases h : accepts value <;> simp [h]

theorem adding_nil (f : Found) : f.adding [] [] = f := by
  rw [adding, List.append_nil, List.map_nil, List.append_nil]

theorem word_eq_adding (f : Found) (w : String) : f.word w = f.adding [] [w] := by
  rw [word, adding, List.map_nil, List.append_nil]

theorem adding_adding (f : Found) (given given' : Given) (words words' : List String) :
    (f.adding given words).adding given' words' = f.adding (given ++ given') (words ++ words') := by
  simp only [adding, List.map_append, List.append_assoc]

/-- Switches are admitted together exactly if they are admitted one after the other. -/
theorem admits_append_iff {words : List String} :
    f.Admits (given ++ given') ↔ f.Admits given ∧ (f.adding given words).Admits given' := by
  -- A repetition across the two lists is one of what was found when the second list comes.
  have hbeside : (∀ g ∈ given, ∀ g' ∈ given', g.1.name = g'.1.name → g'.1.isRepeatable = true) ↔
      ∀ g' ∈ given', g'.1.isRepeatable = true ∨
        (given.any fun g => g.1.name == g'.1.name) = false := by
    constructor
    · intro h g' hg'
      by_cases hr : g'.1.isRepeatable = true
      · exact .inl hr
      · refine .inr (List.any_eq_false.2 fun g hg => ?_)
        rw [beq_iff_eq]
        exact fun hname => hr (h g hg g' hg' hname)
    · intro h g hg g' hg' hname
      refine (h g' hg').resolve_right fun hnone => ?_
      exact List.any_eq_false.1 hnone g hg (beq_iff_eq.2 hname)
  constructor
  · rintro ⟨⟨haccepted, honce⟩, hb⟩
    obtain ⟨haccepted, haccepted'⟩ := List.forall_mem_append.1 haccepted
    obtain ⟨honce, honce', hacross⟩ := List.pairwise_append.1 honce
    obtain ⟨hb, hb'⟩ := List.forall_mem_append.1 hb
    refine ⟨⟨⟨haccepted, honce⟩, hb⟩, ⟨haccepted', honce'⟩, fun g' hg' => ?_⟩
    rw [has_adding, Bool.or_eq_false_iff]
    rcases hb' g' hg' with hr | hfound
    · exact .inl hr
    · exact (hbeside.1 hacross g' hg').imp_right fun hnone => ⟨hfound, hnone⟩
  · rintro ⟨⟨⟨haccepted, honce⟩, hb⟩, ⟨haccepted', honce'⟩, hb'⟩
    simp only [has_adding, Bool.or_eq_false_iff] at hb'
    refine ⟨⟨List.forall_mem_append.2 ⟨haccepted, haccepted'⟩, List.pairwise_append.2
      ⟨honce, honce', hbeside.2 fun g' hg' => (hb' g' hg').imp_right And.right⟩⟩, ?_⟩
    exact List.forall_mem_append.2 ⟨hb, fun g' hg' => (hb' g' hg').imp_right And.left⟩

end Found

/-! ## Vocabularies -/

/-- In a list without two that fit, whatever fits is found. -/
theorem find?_eq_some_iff {α : Type} {p : α → Bool} {as : List α} {a : α}
    (h : as.Pairwise fun a b => p a = true → p b = false) :
    as.find? p = some a ↔ a ∈ as ∧ p a = true := by
  constructor
  · exact fun hfind => ⟨List.mem_of_find?_eq_some hfind, List.find?_some hfind⟩
  · rintro ⟨hmem, ha⟩
    induction h with
    | nil => cases hmem
    | @cons b bs hb _ ih =>
      rcases List.mem_cons.1 hmem with rfl | hmem
      · exact List.find?_cons_of_pos ha
      · have hfits : p b ≠ true := fun hfits => by simp [hb a hmem hfits] at ha
        rw [List.find?_cons_of_neg hfits, ih hmem]

/-- Whether switches are told apart by their names and by their letters. -/
structure IsVocabulary (switches : List Switch) : Prop where
  names : switches.Pairwise fun s s' => s.name ≠ s'.name
  letters : switches.Pairwise fun s s' => s.letter = none ∨ s.letter ≠ s'.letter
  named : ∀ s ∈ switches, s.name ≠ ""
  noEquals : ∀ s ∈ switches, '=' ∉ s.name.toList

variable {switches : List Switch} {f f' : Found} {s : Switch} {given : Given}
  {waiting : Option Switch}

namespace IsVocabulary

instance (switches : List Switch) : Decidable (IsVocabulary switches) :=
  decidable_of_iff
    ((switches.Pairwise fun s s' => s.name ≠ s'.name) ∧
      (switches.Pairwise fun s s' => s.letter = none ∨ s.letter ≠ s'.letter) ∧
      (∀ s ∈ switches, s.name ≠ "") ∧ ∀ s ∈ switches, '=' ∉ s.name.toList)
    ⟨fun ⟨names, letters, named, noEquals⟩ => ⟨names, letters, named, noEquals⟩,
      fun h => ⟨h.names, h.letters, h.named, h.noEquals⟩⟩

variable (hv : IsVocabulary switches)
include hv

theorem find?_name {name : String} :
    switches.find? (fun s => s.name == name) = some s ↔ s ∈ switches ∧ s.name = name := by
  rw [find?_eq_some_iff, beq_iff_eq]
  refine hv.names.imp fun hne heq => ?_
  rw [beq_iff_eq] at heq
  rwa [← heq, beq_eq_false_iff_ne, ne_comm]

theorem find?_letter {c : Char} :
    switches.find? (fun s => s.letter == some c) = some s ↔
      s ∈ switches ∧ s.letter = some c := by
  rw [find?_eq_some_iff, beq_iff_eq]
  refine hv.letters.imp fun hor heq => ?_
  rw [beq_iff_eq] at heq
  rw [← heq, beq_eq_false_iff_ne, ne_comm]
  exact hor.resolve_left (by simp [heq])

end IsVocabulary

/-! ## Spelling -/

/-- How a switch is written behind two dashes: by its name, with its value behind an equals sign or
in the next word. -/
inductive Long (switches : List Switch) : List Char → Given → Option Switch → Prop
  | bare {s : Switch} (hs : s ∈ switches) (hv : s.takesValue = false) :
    Long switches s.name.toList [(s, "")] none
  | valued {s : Switch} (value : List Char) (hs : s ∈ switches) (hv : s.takesValue = true) :
    Long switches (s.name.toList ++ '=' :: value) [(s, String.ofList value)] none
  | waiting {s : Switch} (hs : s ∈ switches) (hv : s.takesValue = true) :
    Long switches s.name.toList [] (some s)

/-- How switches are written behind one dash: by their letters, the last with its value, which
stands directly behind the letter, behind an equals sign or in the next word. -/
inductive Letters (switches : List Switch) : List Char → Given → Option Switch → Prop
  | nil : Letters switches [] [] none
  | bare {s : Switch} {c : Char} {cs : List Char} {given : Given} {waiting : Option Switch}
      (hs : s ∈ switches) (hl : s.letter = some c) (hv : s.takesValue = false)
      (h : Letters switches cs given waiting) :
    Letters switches (c :: cs) ((s, "") :: given) waiting
  | joined {s : Switch} {c : Char} {value : List Char} (hs : s ∈ switches)
      (hl : s.letter = some c) (hv : s.takesValue = true) (hne : value ≠ [])
      (hequals : ∀ rest, value ≠ '=' :: rest) :
    Letters switches (c :: value) [(s, String.ofList value)] none
  | valued {s : Switch} {c : Char} (value : List Char) (hs : s ∈ switches)
      (hl : s.letter = some c) (hv : s.takesValue = true) :
    Letters switches (c :: '=' :: value) [(s, String.ofList value)] none
  | waiting {s : Switch} {c : Char} (hs : s ∈ switches) (hl : s.letter = some c)
      (hv : s.takesValue = true) : Letters switches [c] [] (some s)

/-- How switches are written in a word, with the one whose value is the next word. -/
inductive Spells (switches : List Switch) : List Char → Given → Option Switch → Prop
  | long {cs : List Char} {given : Given} {waiting : Option Switch}
      (h : Long switches cs given waiting) : Spells switches ('-' :: '-' :: cs) given waiting
  | letters {c : Char} {cs : List Char} {given : Given} {waiting : Option Switch} (hc : c ≠ '-')
      (h : Letters switches (c :: cs) given waiting) :
    Spells switches ('-' :: c :: cs) given waiting

theorem Long.mem {cs : List Char} (h : Long switches cs given waiting) :
    (∀ g ∈ given, g.1 ∈ switches) ∧ ∀ s, waiting = some s → s ∈ switches := by
  cases h with
  | bare hs | valued _ hs => exact ⟨List.forall_mem_singleton.2 hs, nofun⟩
  | waiting hs => exact ⟨nofun, fun s heq => Option.some.inj heq ▸ hs⟩

theorem Letters.mem {cs : List Char} (h : Letters switches cs given waiting) :
    (∀ g ∈ given, g.1 ∈ switches) ∧ ∀ s, waiting = some s → s ∈ switches := by
  induction h with
  | nil => exact ⟨nofun, nofun⟩
  | bare hs _ _ _ ih => exact ⟨List.forall_mem_cons.2 ⟨hs, ih.1⟩, ih.2⟩
  | joined hs | valued _ hs => exact ⟨List.forall_mem_singleton.2 hs, nofun⟩
  | waiting hs => exact ⟨nofun, fun s heq => Option.some.inj heq ▸ hs⟩

theorem Spells.mem {w : List Char} (h : Spells switches w given waiting) :
    (∀ g ∈ given, g.1 ∈ switches) ∧ ∀ s, waiting = some s → s ∈ switches := by
  cases h with
  | long h => exact h.mem
  | letters _ h => exact h.mem

theorem Spells.looksLikeSwitch {w : List Char} (h : Spells switches w given waiting) :
    looksLikeSwitch w = true := by
  cases h <;> rfl

theorem Long.ne_nil (hv : IsVocabulary switches) {cs : List Char}
    (h : Long switches cs given waiting) : cs ≠ [] := by
  have hname {s : Switch} (hs : s ∈ switches) : s.name.toList ≠ [] :=
    mt String.toList_eq_nil_iff.1 (hv.named s hs)
  cases h with
  | bare hs | waiting hs => exact hname hs
  | valued value hs => exact List.append_ne_nil_of_left_ne_nil (hname hs) _

theorem Spells.ne_dashes (hv : IsVocabulary switches) {w : String}
    (h : Spells switches w.toList given waiting) : w ≠ "--" := by
  rintro rfl
  have hdashes : "--".toList = ['-', '-'] := rfl
  rw [hdashes] at h
  cases h with
  | long h => exact h.ne_nil hv rfl
  | letters hc => exact hc rfl

/-! ## Reading a word -/

/-- What is taken from a word in which switches are written. -/
def taken (f : Found) : Option Switch → Taken
  | none => .all f
  | some s => .waiting f s

theorem map_all_eq_ok_iff {x : Except Stop Found} :
    x.map .all = .ok (taken f waiting) ↔ waiting = none ∧ x = .ok f := by
  rw [map_eq_ok_iff]
  cases waiting with
  | none => simp [taken]
  | some s => simp [taken]

theorem give_none_iff {value : String} :
    (f.give s value).map .all = .ok (taken f' waiting) ↔
      waiting = none ∧ f.Admits [(s, value)] ∧ f.adding [(s, value)] [] = f' := by
  rw [map_all_eq_ok_iff, Found.give_eq_ok_iff]

theorem ok_waiting_iff :
    (Except.ok (.waiting f s) : Except Stop Taken) = .ok (taken f' waiting) ↔
      waiting = some s ∧ f.Admits [] ∧ f.adding [] [] = f' := by
  rw [f.adding_nil]
  cases waiting with
  | none => simp [taken]
  | some s' => simp [taken, f.admits_nil, and_comm, eq_comm]

theorem ok_all_iff :
    (Except.ok (.all f) : Except Stop Taken) = .ok (taken f' waiting) ↔
      waiting = none ∧ f.Admits [] ∧ f.adding [] [] = f' := by
  rw [f.adding_nil]
  cases waiting with
  | none => simp [taken, f.admits_nil]
  | some s' => simp [taken]

theorem exists_long_of_takeLong (hv : IsVocabulary switches) {cs : List Char}
    (h : takeLong switches f cs = .ok (taken f' waiting)) :
    ∃ given, Long switches cs given waiting ∧ f.Admits given ∧ f.adding given [] = f' := by
  have hsplit : cs.takeWhile (· != '=') ++ cs.dropWhile (· != '=') = cs :=
    List.takeWhile_append_dropWhile
  have hfound {s : Switch}
      (hfind : switches.find? (fun s => s.name == String.ofList (cs.takeWhile (· != '='))) =
        some s) : s ∈ switches ∧ s.name.toList ++ cs.dropWhile (· != '=') = cs := by
    obtain ⟨hs, hname⟩ := hv.find?_name.1 hfind
    rw [hname, String.toList_ofList]
    exact ⟨hs, hsplit⟩
  revert h
  fun_cases takeLong switches f cs with
  | case1 | case2 | case3 | case4 => nofun
  | case5 name s hfind hrest hbare =>
    obtain ⟨hs, hcs⟩ := hfound hfind
    rw [hrest, List.append_nil] at hcs
    rw [give_none_iff]
    rintro ⟨rfl, h⟩
    exact ⟨_, hcs ▸ .bare hs (Switch.takesValue_eq_false_iff.2 hbare), h⟩
  | case6 name s hfind hrest hvalue =>
    obtain ⟨hs, hcs⟩ := hfound hfind
    rw [hrest, List.append_nil] at hcs
    rw [ok_waiting_iff]
    rintro ⟨rfl, h⟩
    exact ⟨_, hcs ▸ .waiting hs (Switch.takesValue_of_ne hvalue), h⟩
  | case7 => nofun
  | case8 name c value s hfind hrest hvalue =>
    obtain ⟨hs, hcs⟩ := hfound hfind
    -- The name was cut off at the first equals sign, so that is what stands behind it.
    have hc : c = '=' := by
      have hhead := List.head?_dropWhile_not (· != '=') cs
      rw [hrest] at hhead
      simpa using hhead
    rw [hrest, hc] at hcs
    rw [give_none_iff]
    rintro ⟨rfl, h⟩
    exact ⟨_, hcs ▸ .valued value hs (Switch.takesValue_of_ne hvalue), h⟩

theorem takeLong_of_long (hv : IsVocabulary switches) {cs : List Char}
    (h : Long switches cs given waiting) (ha : f.Admits given) :
    takeLong switches f cs = .ok (taken (f.adding given []) waiting) := by
  have hkept {s : Switch} (hs : s ∈ switches) : ∀ c ∈ s.name.toList, (c != '=') = true :=
    fun c hc => bne_iff_ne.2 fun heq => hv.noEquals s hs (heq ▸ hc)
  have hfind {s : Switch} (hs : s ∈ switches) :
      (switches.find? fun s' => s'.name == String.ofList s.name.toList) = some s := by
    rw [String.ofList_toList]
    exact hv.find?_name.2 ⟨hs, rfl⟩
  rw [takeLong]
  cases h with
  | bare hs hb =>
    rw [List.takeWhile_eq_self_iff.2 (hkept hs), List.dropWhile_eq_nil_iff.2 (hkept hs), hfind hs]
    simp only [Switch.takesValue_eq_false_iff.1 hb]
    exact give_none_iff.2 ⟨rfl, ha, rfl⟩
  | @valued s value hs hb =>
    rw [List.takeWhile_append_of_pos (hkept hs), List.dropWhile_append_of_pos (hkept hs),
      List.takeWhile_cons_of_neg (by simp), List.dropWhile_cons_of_neg (by simp), List.append_nil,
      hfind hs]
    cases harity : s.arity with
    | bare => exact absurd harity (Switch.arity_ne_of_takesValue hb)
    | one _ | many =>
      simp only [harity]
      exact give_none_iff.2 ⟨rfl, ha, rfl⟩
  | @waiting s hs hb =>
    rw [List.takeWhile_eq_self_iff.2 (hkept hs), List.dropWhile_eq_nil_iff.2 (hkept hs), hfind hs]
    cases harity : s.arity with
    | bare => exact absurd harity (Switch.arity_ne_of_takesValue hb)
    | one _ | many =>
      simp only [harity]
      exact ok_waiting_iff.2 ⟨rfl, ha, rfl⟩

theorem exists_letters_of_takeLetters (hv : IsVocabulary switches) {cs : List Char}
    (h : takeLetters switches f cs = .ok (taken f' waiting)) :
    ∃ given, Letters switches cs given waiting ∧ f.Admits given ∧ f.adding given [] = f' := by
  revert h
  fun_induction takeLetters switches f cs with
  | case1 f =>
    rw [ok_all_iff]
    rintro ⟨rfl, h⟩
    exact ⟨_, .nil, h⟩
  | case2 | case3 | case4 => nofun
  | case5 f c rest s hfind hbare stop hgive => nofun
  | case6 f c rest s hfind hbare f₁ hgive ih =>
    obtain ⟨hs, hl⟩ := hv.find?_letter.1 hfind
    obtain ⟨ha, rfl⟩ := Found.give_eq_ok_iff.1 hgive
    intro h
    obtain ⟨given, hletters, hgiven, rfl⟩ := ih h
    refine ⟨_, .bare hs hl (Switch.takesValue_eq_false_iff.2 hbare) hletters, ?_, ?_⟩
    · exact Found.admits_append_iff.2 ⟨ha, hgiven⟩
    · exact (f.adding_adding [(s, "")] given [] []).symm
  | case7 f c s hfind hvalue =>
    obtain ⟨hs, hl⟩ := hv.find?_letter.1 hfind
    rw [ok_waiting_iff]
    rintro ⟨rfl, h⟩
    exact ⟨_, .waiting hs hl (Switch.takesValue_of_ne hvalue), h⟩
  | case8 f c s hfind value hvalue =>
    obtain ⟨hs, hl⟩ := hv.find?_letter.1 hfind
    rw [give_none_iff]
    rintro ⟨rfl, h⟩
    exact ⟨_, .valued value hs hl (Switch.takesValue_of_ne hvalue), h⟩
  | case9 f c s hfind value hne hequals hvalue =>
    obtain ⟨hs, hl⟩ := hv.find?_letter.1 hfind
    rw [give_none_iff]
    rintro ⟨rfl, h⟩
    exact ⟨_, .joined hs hl (Switch.takesValue_of_ne hvalue) hne hequals, h⟩

theorem takeLetters_of_letters (hv : IsVocabulary switches) {cs : List Char}
    (h : Letters switches cs given waiting) (ha : f.Admits given) :
    takeLetters switches f cs = .ok (taken (f.adding given []) waiting) := by
  induction h generalizing f with
  | nil => exact ok_all_iff.2 ⟨rfl, ha, rfl⟩
  | @bare s c cs given waiting hs hl hb _ ih =>
    obtain ⟨ha, hgiven⟩ := (@Found.admits_append_iff _ [(s, "")] _ []).1 ha
    rw [takeLetters, hv.find?_letter.2 ⟨hs, hl⟩]
    simp only [Switch.takesValue_eq_false_iff.1 hb, Found.give_eq_ok_iff.2 ⟨ha, rfl⟩]
    rw [ih hgiven, Found.adding_adding]
    rfl
  | @joined s c value hs hl hb hne hequals =>
    obtain ⟨x, value, rfl⟩ := List.exists_cons_of_ne_nil hne
    rw [takeLetters, hv.find?_letter.2 ⟨hs, hl⟩]
    cases harity : s.arity with
    | bare => exact absurd harity (Switch.arity_ne_of_takesValue hb)
    | one _ | many =>
      simp only [harity]
      exact give_none_iff.2 ⟨rfl, ha, rfl⟩
  | @valued s c value hs hl hb =>
    rw [takeLetters, hv.find?_letter.2 ⟨hs, hl⟩]
    cases harity : s.arity with
    | bare => exact absurd harity (Switch.arity_ne_of_takesValue hb)
    | one _ | many =>
      simp only [harity]
      exact give_none_iff.2 ⟨rfl, ha, rfl⟩
  | @waiting s c hs hl hb =>
    rw [takeLetters, hv.find?_letter.2 ⟨hs, hl⟩]
    cases harity : s.arity with
    | bare => exact absurd harity (Switch.arity_ne_of_takesValue hb)
    | one _ | many =>
      simp only [harity]
      exact ok_waiting_iff.2 ⟨rfl, ha, rfl⟩

/-- A word that looks like a switch is taken in exactly as it is written. -/
theorem takeSwitch_eq_ok_iff (hv : IsVocabulary switches) {w : List Char}
    (hw : looksLikeSwitch w = true) :
    takeSwitch switches f w = .ok (taken f' waiting) ↔
      ∃ given, Spells switches w given waiting ∧ f.Admits given ∧ f.adding given [] = f' := by
  obtain ⟨c, cs, rfl⟩ : ∃ c cs, w = '-' :: c :: cs := by
    unfold looksLikeSwitch at hw
    split at hw
    · exact ⟨_, _, rfl⟩
    · cases hw
  by_cases hc : c = '-'
  · subst hc
    rw [takeSwitch]
    constructor
    · intro h
      obtain ⟨given, hlong, h⟩ := exists_long_of_takeLong hv h
      exact ⟨given, .long hlong, h⟩
    · rintro ⟨given, hspells, ha, rfl⟩
      cases hspells with
      | long h => exact takeLong_of_long hv h ha
      | letters hc => exact absurd rfl hc
  · have htake : takeSwitch switches f ('-' :: c :: cs) = takeLetters switches f (c :: cs) := by
      rw [takeSwitch]
      · rfl
      · rintro name heq
        cases heq
        exact hc rfl
    rw [htake]
    constructor
    · intro h
      obtain ⟨given, hletters, h⟩ := exists_letters_of_takeLetters hv h
      exact ⟨given, .letters hc hletters, h⟩
    · rintro ⟨given, hspells, ha, rfl⟩
      cases hspells with
      | long h => exact absurd rfl hc
      | letters _ h => exact takeLetters_of_letters hv h ha

end VaultPki.CommandLine
