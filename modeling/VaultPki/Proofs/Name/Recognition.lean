import VaultPki.Proofs.Name.Vocabulary
import VaultPki.Proofs.Text.Ascii

/-!
# Exactly the names of a vocabulary

Each vocabulary recognises the names of its values with the ASCII letters in either case, and
nothing else. No text is the name of two values, so it does not matter in which order the values are
compared with it.
-/

namespace VaultPki

namespace Vocabulary

variable {α : Type} [Vocabulary α]

theorem ofName_of_not_isKnown (hα : IsRecognised α) {s : String} (h : ¬IsKnown α s) :
    ofName s = (.error (.unknownName (subject α) s) : Except Error α) := by
  have hnone : (ofName? s : Option α) = none := by
    rw [Option.eq_none_iff_forall_ne_some]
    intro a ha
    exact h ⟨a, (ofName?_eq_some_iff hα).1 ha⟩
  rw [ofName, hnone]

/-- However the values are listed, the search for one that a text names comes to the same. -/
theorem find?_eq_ofName? (hα : IsRecognised α) {as : List α} (has : ∀ a, a ∈ as) (s : String) :
    as.find? (fun a => Text.Ascii.sameFolded s (name a)) = ofName? s := by
  cases h : (ofName? s : Option α) with
  | none =>
    rw [List.find?_eq_none]
    intro a _ ha
    have hsome := (ofName?_eq_some_iff hα).2 (spells_iff.2 ha)
    cases h.symm.trans hsome
  | some a =>
    have ha : Spells s a := (ofName?_eq_some_iff hα).1 h
    obtain ⟨b, hb⟩ : ∃ b, as.find? (fun a => Text.Ascii.sameFolded s (name a)) = some b := by
      rw [← Option.isSome_iff_exists, List.find?_isSome]
      exact ⟨a, has a, spells_iff.1 ha⟩
    have hfolded := List.find?_some hb
    have hspells : Spells s b := spells_iff.2 hfolded
    rw [hb, hspells.unique hα ha]

/-- Names of letters and digits are not spelled with anything else. -/
theorem not_isKnown_of_foreign (hplain : ∀ a : α, (name a).toList.all Char.isAlphanum = true)
    {s : String} {c : Char} (hc : c ∈ s.toList) (hforeign : c.isAlphanum = false) :
    ¬IsKnown α s := by
  rintro ⟨a, ha⟩
  have hall : s.toList.all Char.isAlphanum = true := by
    rw [← Text.Ascii.all_isAlphanum_lower, ha, Text.Ascii.all_isAlphanum_lower, hplain]
  rw [List.all_eq_true.1 hall c hc] at hforeign
  cases hforeign

/-- Whether a vocabulary recognises the names of its values, with ASCII letters in either case, and
nothing else: at most one value for a text, found in whatever order they are compared, and an error
that quotes every other text as it is. -/
structure RecognisesExactly (α : Type) [Vocabulary α] [ToString α] (what : String) : Prop where
  ok_iff (s : String) (a : α) : ofName s = .ok a ↔ Text.Ascii.lower s = Text.Ascii.lower (name a)
  atMostOne (s : String) (a b : α) (ha : Text.Ascii.lower s = Text.Ascii.lower (name a))
    (hb : Text.Ascii.lower s = Text.Ascii.lower (name b)) : a = b
  inAnyOrder (as : List α) (has : ∀ a, a ∈ as) (s : String) :
    as.find? (fun a => Text.Ascii.sameFolded s (name a)) = ofName? s
  ofOwnName (a : α) : ofName (name a) = .ok a
  ofDisplayed (a : α) : ofName (toString a) = .ok a
  unknown (s : String) (h : ∀ a : α, Text.Ascii.lower s ≠ Text.Ascii.lower (name a)) :
    ofName s = (.error (.encoding ("unknown " ++ what ++ " '" ++ s ++ "'")) : Except Error α)
  foreign (s : String) (c : Char) (hc : c ∈ s.toList) (h : c.isAlphanum = false) :
    ofName s = (.error (.encoding ("unknown " ++ what ++ " '" ++ s ++ "'")) : Except Error α)

theorem recognisesExactly [ToString α] (hα : IsRecognised α)
    (hplain : ∀ a : α, (name a).toList.all Char.isAlphanum = true)
    (hdisplayed : ∀ a : α, toString a = name a) : RecognisesExactly α (subject α) where
  ok_iff _ _ := ofName_eq_ok_iff hα
  atMostOne _ _ _ := Spells.unique hα
  inAnyOrder _ := find?_eq_ofName? hα
  ofOwnName a := ofName_of_ofName? (hα a)
  ofDisplayed a := by rw [hdisplayed, ofName_of_ofName? (hα a)]
  unknown _ h := ofName_of_not_isKnown hα fun ⟨a, ha⟩ => h a ha
  foreign _ _ hc h := ofName_of_not_isKnown hα (not_isKnown_of_foreign hplain hc h)

end Vocabulary

open Vocabulary

theorem KeyType.isAlphanum_name (k : KeyType) :
    (Vocabulary.name k).toList.all Char.isAlphanum = true := by
  cases k <;> decide

theorem KeyUsage.isAlphanum_name (usage : KeyUsage) :
    (Vocabulary.name usage).toList.all Char.isAlphanum = true := by
  cases usage <;> decide

theorem ExtendedKeyUsage.isAlphanum_name (usage : ExtendedKeyUsage) :
    (Vocabulary.name usage).toList.all Char.isAlphanum = true := by
  cases usage <;> decide

/-- The names of key types are in capitals, so a text in capitals can be compared as it is. -/
theorem KeyType.spells_iff_upper {s : String} {k : KeyType} :
    Spells s k ↔ Text.Ascii.upper s = k.name := by
  have hcapitals : Text.Ascii.upper k.name = k.name := by cases k <;> decide
  rw [← hcapitals, Text.Ascii.upper_eq_upper_iff]
  exact Iff.rfl

/-- The three vocabularies recognise exactly the names of their values, which are also the texts by
which the values are displayed. Of key types, what is written in requests is recognised too, and
comparing in capitals is the same. -/
theorem names_are_recognised_exactly :
    RecognisesExactly KeyType "key type" ∧ RecognisesExactly KeyUsage "key usage" ∧
      RecognisesExactly ExtendedKeyUsage "extended key usage" ∧
      (∀ k : KeyType, ofName k.wire = .ok k) ∧
      ∀ (s : String) (k : KeyType), ofName s = .ok k ↔ Text.Ascii.upper s = k.name := by
  refine ⟨recognisesExactly KeyType.isRecognised KeyType.isAlphanum_name fun _ => rfl,
    recognisesExactly KeyUsage.isRecognised KeyUsage.isAlphanum_name fun _ => rfl,
    recognisesExactly ExtendedKeyUsage.isRecognised ExtendedKeyUsage.isAlphanum_name fun _ => rfl,
    fun k => ofName_of_ofName? k.ofName?_wire, fun s k => ?_⟩
  rw [ofName_eq_ok_iff KeyType.isRecognised, KeyType.spells_iff_upper]

/-- A long s is no letter of ASCII, although elsewhere it is folded to one. -/
example : (ofName "R\u017fA" : Except Error KeyType) =
    .error (.encoding "unknown key type 'R\u017fA'") := by
  decide

end VaultPki
