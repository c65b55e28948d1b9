import VaultPki.Proofs.Outcome
import VaultPki.Proofs.Record.Absence
import VaultPki.Proofs.Record.Shapes

/-!
# Keys, chains and certificates that are absent

An answer can say in several ways that a private key, a chain or a stored certificate is absent.
What is made of its data is the same for all of them.
-/

namespace VaultPki

open Record
open Json (Document)

namespace Material

/-- The private key of a certificate or of a request, which the empty text is not. -/
def privateKey : OptionalPart where
  name := "private_key"
  Value := String
  codec := .text
  Stands := IsText
  counts key := key != ""
  denotes_eq _ := Codec.denotes_text
  not_stands_null := nofun
  isThorough := Codec.text_isThorough

/-- The chain of the authority, of which the empty list is none. -/
def chain : OptionalPart where
  name := "ca_chain"
  Value := List String
  codec := .list .text
  Stands := IsListOf IsText
  counts certificates := !certificates.isEmpty
  denotes_eq _ := by rw [Codec.denotes_list, Codec.denotes_text]
  not_stands_null := by
    rintro v ⟨items, hnull, -⟩
    cases hnull
  isThorough := Codec.list_isThorough Codec.text_isThorough

/-- A stored certificate, which a text of blanks is not. -/
def certificate : OptionalPart where
  name := "certificate"
  Value := String
  codec := .text
  Stands := IsText
  counts certificate := !Text.isBlankText certificate
  denotes_eq _ := Codec.denotes_text
  not_stands_null := nofun
  isThorough := Codec.text_isThorough

/-- The type of a private key, whatever its name. -/
def keyType : OptionalPart where
  name := "private_key_type"
  Value := String
  codec := .text
  Stands := IsText
  counts _ := true
  denotes_eq _ := Codec.denotes_text
  not_stands_null := nofun
  isThorough := Codec.text_isThorough

/-- A chain that is there, as the empty list is not. -/
def presentChain? : List String → Option (List String)
  | [] => none
  | certificates => some certificates

end Material

namespace Record

variable {part : OptionalPart} {levels : Nat}

namespace OptionalPart

theorem countAlike_equivalence (part : OptionalPart) : Equivalence part.CountAlike where
  refl _ := rfl
  symm := Eq.symm
  trans := Eq.trans

/-- A field that may be `null` takes what says that its part is absent as missing. -/
theorem IsAbsent.takes_nullable {d : Document} (h : part.IsAbsent d) (levels : Nat) :
    ∃ v v', part.codec.nullable.read (levels + 1) d = .ok v ∧
      (some none : Option (Option part.Value)) = some v' ∧
      (some none : Option (Option part.Value)) = some v' ∧ part.CountAlike v v' := by
  obtain ⟨o, ho, halike⟩ := h.exists_read levels
  exact ⟨o, none, ho, rfl, rfl, halike⟩

end OptionalPart

namespace Layout

variable {ρ : Type} {l : Layout ρ} {Rs : Row.Relation l.own}

/-- Whether the fields of a record take what says that a part is absent as missing. -/
def TakesAsMissing (levels : Nat) (l : Layout ρ) (Rs : Row.Relation l.own) (part : OptionalPart) :
    Prop :=
  ∀ d, part.IsAbsent d → Row.TakesAsMissing (levels + 1) part.name d l.own Rs

/-- What is made of a record does not depend on how it says that parts are absent. -/
theorem overlooksAt_leaveOutAll {α : Type} {f : ρ → α} {parts : List OptionalPart}
    (hspread : l.spread = []) (htakes : ∀ part ∈ parts, l.TakesAsMissing levels Rs part)
    (hf : ∀ r r', Row.Related l.own Rs (l.row r).1 (l.row r').1 → f r = f r') :
    l.codec.OverlooksAt (levels + 2) (OptionalPart.leaveOutAll parts l.names)
      fun r r' => f r = f r' := by
  have hpart (part : OptionalPart) (hpart : part ∈ parts) :
      l.codec.OverlooksAt (levels + 2) (part.leaveOut l.names) fun r r' => f r = f r' :=
    fun d => (overlooksAt_leaveOut hspread (htakes part hpart) d).mono hf
  exact OptionalPart.overlooksAt_leaveOutAll (fun _ => rfl) (fun _ _ _ => Eq.trans) hpart

end Layout

end Record

/-! ## Data -/

namespace Material

variable {part : OptionalPart} {levels : Nat}

theorem presentChain?_getD (o : Option (List String)) :
    presentChain? (o.getD []) = o.filter chain.counts := by
  rcases o with _ | _ | ⟨c, cs⟩ <;> rfl

theorem presentChain?_injective : Function.Injective presentChain? := by
  intro as as' h
  cases as <;> cases as' <;> simp_all [presentChain?]

theorem getD_of_countAlike {o o' : Option (List String)} (h : chain.CountAlike o o') :
    o.getD [] = o'.getD [] := by
  apply presentChain?_injective
  rw [presentChain?_getD, presentChain?_getD, h]

theorem presentKey?_of_countAlike {o o' : Option String} (h : privateKey.CountAlike o o') :
    presentKey? o = presentKey? o' :=
  h

theorem takesAsMissing_storedCertificate (hpart : part ∈ [certificate]) :
    StoredCertificate.layout.TakesAsMissing levels (certificate.CountAlike, ()) part := by
  intro d habsent
  obtain rfl := List.mem_singleton.1 hpart
  exact ⟨certificate.countAlike_equivalence, fun _ => habsent.takes_nullable levels, trivial⟩

/-- How the data of an issuance are compared. -/
def issuance : Row.Relation Issuance.Data.layout.own :=
  (Eq, Eq, chain.CountAlike, Eq, Eq, privateKey.CountAlike, ())

theorem takesAsMissing_issuance (hpart : part ∈ [privateKey, chain]) :
    Issuance.Data.layout.TakesAsMissing levels issuance part := by
  intro d habsent
  have hchain := chain.countAlike_equivalence
  have hkey := privateKey.countAlike_equivalence
  have htakes := habsent.takes_nullable levels
  simp only [List.mem_cons, List.not_mem_nil, or_false] at hpart
  rcases hpart with rfl | rfl
  · exact ⟨eq_equivalence, nofun, eq_equivalence, nofun, hchain, nofun, eq_equivalence, nofun,
      eq_equivalence, nofun, hkey, fun _ => htakes, trivial⟩
  · exact ⟨eq_equivalence, nofun, eq_equivalence, nofun, hchain, fun _ => htakes, eq_equivalence,
      nofun, eq_equivalence, nofun, hkey, nofun, trivial⟩

/-- How the data of a signature are compared. -/
def signing : Row.Relation Signing.Data.layout.own :=
  (Eq, Eq, chain.CountAlike, Eq, ())

theorem takesAsMissing_signing (hpart : part ∈ [chain]) :
    Signing.Data.layout.TakesAsMissing levels signing part := by
  intro d habsent
  obtain rfl := List.mem_singleton.1 hpart
  exact ⟨eq_equivalence, nofun, eq_equivalence, nofun, chain.countAlike_equivalence,
    fun _ => habsent.takes_nullable levels, eq_equivalence, nofun, trivial⟩

/-- How the data of a new root are compared. -/
def root : Row.Relation RootGeneration.Data.layout.own :=
  (Eq, Eq, Eq, Eq, privateKey.CountAlike, ())

theorem takesAsMissing_root (hpart : part ∈ [privateKey, chain]) :
    RootGeneration.Data.layout.TakesAsMissing levels root part := by
  intro d habsent
  have hkey := privateKey.countAlike_equivalence
  have htakes := habsent.takes_nullable levels
  simp only [List.mem_cons, List.not_mem_nil, or_false] at hpart
  rcases hpart with rfl | rfl
  · exact ⟨eq_equivalence, nofun, eq_equivalence, nofun, eq_equivalence, nofun, eq_equivalence,
      nofun, hkey, fun _ => htakes, trivial⟩
  · exact ⟨eq_equivalence, nofun, eq_equivalence, nofun, eq_equivalence, nofun, eq_equivalence,
      nofun, hkey, nofun, trivial⟩

/-- How the data of a request are compared. -/
def request : Row.Relation RequestGeneration.Data.layout.own :=
  (Eq, Eq, privateKey.CountAlike, ())

theorem takesAsMissing_request (hpart : part ∈ [privateKey, chain]) :
    RequestGeneration.Data.layout.TakesAsMissing levels request part := by
  intro d habsent
  have hkey := privateKey.countAlike_equivalence
  have htakes := habsent.takes_nullable levels
  simp only [List.mem_cons, List.not_mem_nil, or_false] at hpart
  rcases hpart with rfl | rfl
  · exact ⟨eq_equivalence, nofun, eq_equivalence, nofun, hkey, fun _ => htakes, trivial⟩
  · exact ⟨eq_equivalence, nofun, eq_equivalence, nofun, hkey, nofun, trivial⟩

/-- Data that are the same but for what is absent come to the same. -/
theorem toCertificate_of_issuance {d d' : Issuance.Data}
    (h : Row.Related _ issuance (Issuance.Data.layout.row d).1 (Issuance.Data.layout.row d').1) :
    d.toCertificate = d'.toCertificate := by
  obtain ⟨hcertificate, hissuer, hchain, hserial, hkeyType, hkey, -⟩ := h
  rw [Issuance.Data.toCertificate, Issuance.Data.toCertificate, hcertificate, hissuer,
    getD_of_countAlike hchain, hserial, hkeyType, presentKey?_of_countAlike hkey]

theorem toCertificate_of_signing {d d' : Signing.Data}
    (h : Row.Related _ signing (Signing.Data.layout.row d).1 (Signing.Data.layout.row d').1) :
    d.toCertificate = d'.toCertificate := by
  obtain ⟨hcertificate, hissuer, hchain, hserial, -⟩ := h
  rw [Signing.Data.toCertificate, Signing.Data.toCertificate, hcertificate, hissuer,
    getD_of_countAlike hchain, hserial]

theorem toCertificate_of_root {d d' : RootGeneration.Data}
    (h : Row.Related _ root (RootGeneration.Data.layout.row d).1
      (RootGeneration.Data.layout.row d').1) : d.toCertificate = d'.toCertificate := by
  obtain ⟨hcertificate, hissuer, hserial, hkeyType, hkey, -⟩ := h
  rw [RootGeneration.Data.toCertificate, RootGeneration.Data.toCertificate, hcertificate, hissuer,
    hserial, hkeyType, presentKey?_of_countAlike hkey]

theorem toRequest_of_request {d d' : RequestGeneration.Data}
    (h : Row.Related _ request (RequestGeneration.Data.layout.row d).1
      (RequestGeneration.Data.layout.row d').1) : d.toRequest = d'.toRequest := by
  obtain ⟨hrequest, hkeyType, hkey, -⟩ := h
  rw [RequestGeneration.Data.toRequest, RequestGeneration.Data.toRequest, hrequest, hkeyType,
    presentKey?_of_countAlike hkey]

theorem present?_of_countAlike {d d' : StoredCertificate}
    (h : certificate.CountAlike d.certificate d'.certificate) : d.present? = d'.present? :=
  h

theorem fixed_of_countAlike {d d' : StoredCertificate} (mount serial : String)
    (h : certificate.CountAlike d.certificate d'.certificate) :
    Call.fixed mount serial d = Call.fixed mount serial d' := by
  rw [Call.fixed, Call.fixed, present?_of_countAlike h]

end Material

namespace Call

open Material

variable {levels : Nat}

/-- The parts of a call's data that may be absent. A request, like a root, has no chain, but the
server may send one. -/
def optionalParts : Call → List OptionalPart
  | issue _ _ | generateRoot _ | generateRequest _ => [privateKey, chain]
  | sign _ _ _ | signIntermediate _ _ => [chain]
  | readAuthority | readAuthorityChain | readRevocationList | readCertificate _ => [certificate]
  | _ => []

/-- What a call makes of its data does not depend on how they say that parts are absent. -/
theorem payload_overlooksAt {call : Call} {mount : String} {p : Payload call.Result}
    (hp : call.payload? mount = some p) :
    p.layout.codec.OverlooksAt (levels + 2)
      (OptionalPart.leaveOutAll call.optionalParts p.layout.names)
      fun d d' => p.interpret d = p.interpret d' := by
  cases call with
  | readAuthority | readAuthorityChain | readRevocationList =>
    cases hp
    exact Layout.overlooksAt_leaveOutAll rfl (fun _ => takesAsMissing_storedCertificate)
      fun _ _ h => fixed_of_countAlike mount _ h.1
  | readCertificate serial =>
    cases hp
    exact Layout.overlooksAt_leaveOutAll rfl (fun _ => takesAsMissing_storedCertificate)
      fun _ _ h => congrArg Except.ok (present?_of_countAlike h.1)
  | issue role o =>
    cases hp
    exact Layout.overlooksAt_leaveOutAll rfl (fun _ => takesAsMissing_issuance)
      fun _ _ => toCertificate_of_issuance
  | sign role request o | signIntermediate request o =>
    cases hp
    exact Layout.overlooksAt_leaveOutAll rfl (fun _ => takesAsMissing_signing)
      fun _ _ h => congrArg Except.ok (toCertificate_of_signing h)
  | generateRoot o =>
    cases hp
    exact Layout.overlooksAt_leaveOutAll rfl (fun _ => takesAsMissing_root)
      fun _ _ => toCertificate_of_root
  | generateRequest o =>
    cases hp
    exact Layout.overlooksAt_leaveOutAll rfl (fun _ => takesAsMissing_request)
      fun _ _ => toRequest_of_request
  | _ =>
    have hsame (d : p.Data) : p.interpret d = p.interpret d := rfl
    exact fun d => .refl hsame (p.layout.codec.read (levels + 2) d)

end Call

end VaultPki
