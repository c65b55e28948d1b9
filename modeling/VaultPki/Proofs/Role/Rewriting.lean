import VaultPki.Proofs.Role.Reading
import VaultPki.Proofs.Role.RoundTrip
import VaultPki.Proofs.Text.Ascii

/-!
# Which stored roles survive being read and written

Reading a stored role forgets how its names were spelled and where the lists of its subject were
cut. So writing back what was read changes a stored role unless it is already in the form in which
roles are written; once written, it stays as it is.
-/

namespace VaultPki

open Vocabulary

/-! ## Names -/

namespace Vocabulary

variable {α : Type} [Vocabulary α] {s : String} {a : α} {ss : List String} {as : List α}

/-- A name comes back as it is exactly if it is spelled as that of some value. -/
theorem Spells.name_eq_iff (hα : IsRecognised α) (h : Spells s a) :
    name a = s ↔ ∃ b : α, s = name b := by
  constructor
  · rintro rfl
    exact ⟨a, rfl⟩
  · rintro ⟨b, rfl⟩
    rw [h.unique hα rfl]

theorem names_eq_iff (hα : IsRecognised α) (h : List.Forall₂ Spells ss as) :
    names as = ss ↔ ∀ s ∈ ss, ∃ a : α, s = name a := by
  induction h with
  | nil => simp [names]
  | cons ha _ ih =>
    rw [names] at ih
    rw [names, List.map_cons, List.cons.injEq, ih, ha.name_eq_iff hα, List.forall_mem_cons]

theorem map_names_eq_iff (hα : IsRecognised α) {o : Option (List String)} {v : Option (List α)}
    (h : Option.Rel (List.Forall₂ Spells) o v) :
    v.map names = o ↔ ∀ ss ∈ o, ∀ s ∈ ss, ∃ a : α, s = name a := by
  cases h with
  | none => simp
  | some h => simp [names_eq_iff hα h]

end Vocabulary

theorem KeyType.map_wire_eq_iff {o : Option String} {v : Option KeyType}
    (h : Option.Rel Spells o v) :
    v.map KeyType.wire = o ↔ ∀ s ∈ o, ∀ c ∈ s.toList, c.isUpper = false := by
  cases h with
  | none => simp
  | some h =>
    have hwire : KeyType.wire _ = Text.Ascii.lower _ := h.symm
    simp [hwire, Text.Ascii.lower_eq_self_iff]

/-! ## Subjects -/

theorem Text.Commas.map_split_eq_iff {o : Option (List String)} :
    (o.map ",".intercalate).map split = o ↔
      ∀ parts ∈ o, parts ≠ [] ∧ ∀ part ∈ parts, ',' ∉ part.toList := by
  cases o with
  | none => simp
  | some parts => simp [← join_eq_intercalate, split_join_eq_self_iff]

namespace StoredRole

/-- Whether a part of the subject is absent or a list that its text is cut into again. -/
def IsSeparable (part : Option (List String)) : Prop :=
  ∀ elements ∈ part, elements ≠ [] ∧ ∀ element ∈ elements, ',' ∉ element.toList

/-- Whether a stored role is as roles are written: the type of its keys in small letters, their
usages under their own names, and the subject in lists without commas. -/
structure IsCanonical (d : StoredRole) : Prop where
  keyType : ∀ s ∈ d.keyType, ∀ c ∈ s.toList, c.isUpper = false
  keyUsages : ∀ ss ∈ d.keyUsages, ∀ s ∈ ss, ∃ usage : KeyUsage, s = usage.name
  extendedKeyUsages :
    ∀ ss ∈ d.extendedKeyUsages, ∀ s ∈ ss, ∃ usage : ExtendedKeyUsage, s = usage.name
  organization : IsSeparable d.organization
  unit : IsSeparable d.unit
  street : IsSeparable d.street
  postalCode : IsSeparable d.postalCode
  locality : IsSeparable d.locality
  province : IsSeparable d.province
  country : IsSeparable d.country

variable {d : StoredRole} {role : Role}

/-- What is written back is what was stored but for the names and the subject. -/
theorem stored_eq_of_standsFor (h : d.StandsFor role) :
    role.stored = { d with
      keyType := role.keyType.map KeyType.wire
      keyUsages := role.keyUsages.map names
      extendedKeyUsages := role.extendedKeyUsages.map names
      organization := (d.organization.map ",".intercalate).map Text.Commas.split
      unit := (d.unit.map ",".intercalate).map Text.Commas.split
      street := (d.street.map ",".intercalate).map Text.Commas.split
      postalCode := (d.postalCode.map ",".intercalate).map Text.Commas.split
      locality := (d.locality.map ",".intercalate).map Text.Commas.split
      province := (d.province.map ",".intercalate).map Text.Commas.split
      country := (d.country.map ",".intercalate).map Text.Commas.split } := by
  cases h
  simp only [Role.stored, *]

theorem stored_eq_iff_isCanonical (h : d.StandsFor role) : role.stored = d ↔ d.IsCanonical := by
  have hkeyType := KeyType.map_wire_eq_iff h.keyType
  have husages := map_names_eq_iff KeyUsage.isRecognised h.keyUsages
  have hextended := map_names_eq_iff ExtendedKeyUsage.isRecognised h.extendedKeyUsages
  have hsubject (part : Option (List String)) :
      (part.map ",".intercalate).map Text.Commas.split = part ↔ IsSeparable part :=
    Text.Commas.map_split_eq_iff
  rw [stored_eq_of_standsFor h]
  constructor
  · intro heq
    exact {
      keyType := hkeyType.1 (congrArg StoredRole.keyType heq)
      keyUsages := husages.1 (congrArg StoredRole.keyUsages heq)
      extendedKeyUsages := hextended.1 (congrArg StoredRole.extendedKeyUsages heq)
      organization := (hsubject _).1 (congrArg StoredRole.organization heq)
      unit := (hsubject _).1 (congrArg StoredRole.unit heq)
      street := (hsubject _).1 (congrArg StoredRole.street heq)
      postalCode := (hsubject _).1 (congrArg StoredRole.postalCode heq)
      locality := (hsubject _).1 (congrArg StoredRole.locality heq)
      province := (hsubject _).1 (congrArg StoredRole.province heq)
      country := (hsubject _).1 (congrArg StoredRole.country heq) }
  · intro hd
    rw [hkeyType.2 hd.keyType, husages.2 hd.keyUsages, hextended.2 hd.extendedKeyUsages,
      (hsubject _).2 hd.organization, (hsubject _).2 hd.unit, (hsubject _).2 hd.street,
      (hsubject _).2 hd.postalCode, (hsubject _).2 hd.locality, (hsubject _).2 hd.province,
      (hsubject _).2 hd.country]

/-- Writing back what was read leaves a stored role as it is exactly if it is in the form in which
roles are written. It never changes anything but names and the subject, and what it yields it leaves
as it is. -/
theorem stored_toRole (h : d.toRole = .ok role) :
    (role.stored = d ↔ d.IsCanonical) ∧
    { role.stored with
      keyType := d.keyType
      keyUsages := d.keyUsages
      extendedKeyUsages := d.extendedKeyUsages
      organization := d.organization
      unit := d.unit
      street := d.street
      postalCode := d.postalCode
      locality := d.locality
      province := d.province
      country := d.country } = d ∧
    role.stored.toRole.map Role.stored = .ok role.stored := by
  have hstands := toRole_eq_ok_iff.1 h
  refine ⟨stored_eq_iff_isCanonical hstands, ?_, ?_⟩
  · rw [stored_eq_of_standsFor hstands]
  · rw [toRole_stored]
    rfl

/-- A role with a key type in capitals, and one unit whose name holds a comma. -/
def capitals : StoredRole :=
  { ({} : Role).stored with keyType := some "RSA", unit := some ["Labs, Berlin"] }

theorem toRole_capitals :
    capitals.toRole = .ok { keyType := some .rsa, unit := some "Labs, Berlin" } ∧
      ({ keyType := some .rsa, unit := some "Labs, Berlin" } : Role).stored ≠ capitals := by
  have h : capitals.toRole = .ok { keyType := some .rsa, unit := some "Labs, Berlin" } := by
    decide
  refine ⟨h, fun hsame => ?_⟩
  have hcanonical := (stored_toRole h).1.1 hsame
  exact absurd (hcanonical.keyType "RSA" rfl 'R' (by simp)) (by decide)

end StoredRole

end VaultPki
