import Mathlib
import VaultPki.Json.Document

/-!
# Documents without defects

What skimming and reading a document find wrong with it: nothing in the document of a value. Where
skimming a document finds no defect, there is none in its parts. A legible document is refused, where
another kind of value is wanted, for its kind alone.
-/

namespace VaultPki.Json.Document

variable {levels : Nat}

/-- Whether a document can be read in full, when so many lists and objects may stand inside one
another. -/
def IsReadable (levels : Nat) (d : Document) : Prop :=
  ∃ j, d.value levels = .ok j

/-- Whether nothing but its kind is wrong with a document where another kind of value is wanted, nor
with an item of it where it is a list. -/
def IsLegible : Document → Prop
  | .list items stop => stop = none ∧ ∀ d ∈ items, d.refusal = .mismatch
  | d => d.refusal = .mismatch

/-! ## Documents of values -/

mutual

theorem skim_ofJson : (j : Json) → skim (ofJson j) = none
  | .null | .bool _ | .integer _ | .real _ | .text _ => by simp only [ofJson, skim]
  | .list items => by
    rw [ofJson, skim]
    exact skimItems_ofItems items
  | .object ms => by
    rw [ofJson, skim]
    exact skimMembers_ofMembers ms

theorem skimItems_ofItems : (js : List Json) → skimItems (ofItems js) none = none
  | [] => rfl
  | j :: js => by
    rw [ofItems, skimItems, skim_ofJson j]
    exact skimItems_ofItems js

theorem skimMembers_ofMembers : (ms : List (String × Json)) → skimMembers (ofMembers ms) none = none
  | [] => rfl
  | (n, j) :: ms => by
    rw [ofMembers, skimMembers, skim_ofJson j]
    exact skimMembers_ofMembers ms

end

theorem mem_ofMembers {js : List (String × Json)} {m : Except Defect String × Document}
    (h : m ∈ ofMembers js) : ∃ x ∈ js, m = (.ok x.1, ofJson x.2) := by
  induction js with
  | nil => cases h
  | cons j js ih =>
    rw [ofMembers, List.mem_cons] at h
    rcases h with rfl | h
    · exact ⟨j, by simp, rfl⟩
    · obtain ⟨x, hx, rfl⟩ := ih h
      exact ⟨x, by simp [hx], rfl⟩

theorem isReadable_list {items : List Json} (h : ∀ j ∈ items, IsReadable levels (ofJson j)) :
    IsReadable (levels + 1) (ofJson (.list items)) := by
  suffices hitems : ∃ js, valueItems levels (ofItems items) none = .ok js by
    obtain ⟨js, hjs⟩ := hitems
    exact ⟨.list js, by rw [ofJson, value, hjs]; rfl⟩
  induction items with
  | nil => exact ⟨[], rfl⟩
  | cons j items ih =>
    obtain ⟨k, hk⟩ := h j List.mem_cons_self
    obtain ⟨ks, hks⟩ := ih fun x hx => h x (List.mem_cons_of_mem j hx)
    exact ⟨k :: ks, by rw [ofItems, valueItems, hk, hks]; rfl⟩

theorem isReadable_object {ms : List (String × Json)}
    (h : ∀ m ∈ ms, IsReadable levels (ofJson m.2)) :
    IsReadable (levels + 1) (ofJson (.object ms)) := by
  suffices hmembers : ∃ js, valueMembers levels (ofMembers ms) none = .ok js by
    obtain ⟨js, hjs⟩ := hmembers
    exact ⟨Json.ofMembers js, by rw [ofJson, value, hjs]; rfl⟩
  induction ms with
  | nil => exact ⟨[], rfl⟩
  | cons m ms ih =>
    obtain ⟨k, hk⟩ := h m List.mem_cons_self
    obtain ⟨ks, hks⟩ := ih fun x hx => h x (List.mem_cons_of_mem m hx)
    exact ⟨(m.1, k) :: ks, by rw [ofMembers, valueMembers, hk, hks]; rfl⟩

/-! ## Parts of documents -/

theorem skimItems_eq_none_iff {items : List Document} {stop : Option Break} :
    skimItems items stop = none ↔ stop = none ∧ ∀ d ∈ items, d.skim = none := by
  induction items with
  | nil => simp [skimItems]
  | cons d items ih =>
    rw [skimItems, List.forall_mem_cons]
    cases hd : d.skim with
    | some defect => simp
    | none => simpa using ih

theorem skimMembers_eq_none_iff {ms : List (Except Defect String × Document)}
    {stop : Option Break} :
    skimMembers ms stop = none ↔ stop = none ∧ ∀ m ∈ ms, m.2.skim = none := by
  induction ms with
  | nil => simp [skimMembers]
  | cons m ms ih =>
    obtain ⟨name, d⟩ := m
    rw [skimMembers, List.forall_mem_cons]
    cases hd : d.skim with
    | some defect => simp
    | none => simpa [hd] using ih

theorem IsLegible.refusal {d : Document} (h : d.IsLegible) : d.refusal = .mismatch := by
  cases d with
  | list items stop => rfl
  | _ => exact h

end VaultPki.Json.Document
