import VaultPki.Envelope
import VaultPki.Proofs.Record.Reading

/-!
# Envelopes without data

An envelope that can be read has no data exactly if the member is missing or `null`, or, in an
envelope that is written as the list of its values, if the first value is `null`.
-/

namespace VaultPki

open Record
open Json (Document)

/-- Whether an envelope has no data. -/
def Json.Document.LacksData : Document → Prop
  | .object ms _ => ∀ m ∈ ms, isNamed "data" m = true → m.2 = .null
  | .list items _ => items.head? = some .null
  | _ => False

namespace Envelope

variable {α : Type} {c : Codec α} {e : Envelope α}

private theorem lacksData_of_readMembers {levels : Nat}
    {ms : List (Except Json.Defect String × Document)} {stop : Option Json.Break}
    (h : (layout c).readMembers levels ms stop = .ok e) :
    e.data = none ↔ (Document.object ms stop).LacksData := by
  obtain ⟨⟨⟨slot, rest⟩, kept⟩, hgather, h⟩ := Attempt.bind_eq_ok_iff.1 h
  obtain ⟨hslot, -⟩ := Layout.gather_cons_eq_ok_iff.1 hgather
  obtain ⟨⟨data, others⟩, hrow, h⟩ := Attempt.bind_eq_ok_iff.1 h
  obtain ⟨slots, -, h⟩ := Attempt.bind_eq_ok_iff.1 h
  obtain ⟨spread, -, h⟩ := Attempt.bind_eq_ok_iff.1 h
  have he : e.data = data := by
    cases h
    rfl
  have hdata : slot.getD none = data := by
    have hvalue : slot.or (some none) = some data := (Slots.row_cons_eq_ok_iff.1 hrow).1
    cases slot with
    | none => exact Option.some.inj hvalue
    | some v => exact Option.some.inj hvalue
  rw [he, ← hdata]
  exact fillSlot_nullable_absent_iff hslot

private theorem lacksData_of_readItems {levels : Nat} {items : List Document}
    {stop : Option Json.Break} (h : (layout c).readItems levels items stop = .ok e) :
    e.data = none ↔ (Document.list items stop).LacksData := by
  obtain ⟨⟨data, others⟩, hrow, h⟩ := Attempt.bind_eq_ok_iff.1 h
  obtain ⟨spread, -, h⟩ := Attempt.bind_eq_ok_iff.1 h
  have he : e.data = data := by
    cases h
    rfl
  rw [he]
  cases items with
  | nil => cases stop <;> cases hrow
  | cons d ds =>
    have hread : c.nullable.read levels d = .ok data := (Row.ofItems_cons_eq_ok_iff.1 hrow).1
    constructor
    · rintro rfl
      exact congrArg some (Codec.nullable_read_eq_ok_none_iff.1 hread)
    · intro hlacks
      have hnull : d = .null := Option.some.inj hlacks
      rw [hnull] at hread
      exact (Except.ok.inj hread).symm

/-- An envelope has no data exactly if its text gives none. -/
theorem data_eq_none_iff {bytes : List UInt8} (h : (layout c).decode bytes = .ok e) :
    e.data = none ↔ (Json.Text.ofBytes bytes).document.LacksData := by
  rcases Layout.read_eq_ok (Codec.read_of_decode_eq_ok h) with
    ⟨ms, stop, hd, hread⟩ | ⟨items, stop, hd, hread⟩
  · rw [hd]
    exact lacksData_of_readMembers hread
  · rw [hd]
    exact lacksData_of_readItems hread

end Envelope

end VaultPki
