import VaultPki.Proofs.Record.Gathering

/-!
# What was read, when reading succeeds

A record that can be read is an object or a list of values, whose row comes apart into the value of
the first field and the rest. An integer that can be read is the number it stands for, and a value
that may be `null` is absent exactly if it is `null` or no member has its name.
-/

namespace VaultPki.Record

open VaultPki.Json (Document Problem Defect Break)

variable {α : Type} {c : Codec α} {levels : Nat}

namespace Codec

theorem narrowUInt32_eq_some_iff {n : Int} {a : UInt32} :
    narrowUInt32 n = some a ↔ n = a.toNat := by
  have hlt : a.toNat < UInt32.size := a.toNat_lt_size
  rw [narrowUInt32]
  constructor
  · intro h
    obtain ⟨⟨hpos, hsize⟩, ha⟩ := Option.ite_none_right_eq_some.1 h
    obtain rfl := Option.some.inj ha
    rw [UInt32.toNat_ofNat_of_lt' (by omega)]
    omega
  · rintro rfl
    rw [if_pos (by omega), Int.toNat_natCast, UInt32.ofNat_toNat]

theorem narrowInt32_eq_some_iff {n : Int} {a : Int32} :
    narrowInt32 n = some a ↔ n = a.toInt := by
  rw [narrowInt32]
  constructor
  · intro h
    obtain ⟨⟨hmin, hmax⟩, ha⟩ := Option.ite_none_right_eq_some.1 h
    obtain rfl := Option.some.inj ha
    exact (Int32.toInt_ofInt_of_le hmin (Int.lt_add_one_of_le hmax)).symm
  · rintro rfl
    rw [if_pos ⟨Int32.minValue_le_toInt a, Int32.toInt_le a⟩, Int32.ofInt_toInt]

theorem narrowInt64_eq_some_iff {n : Int} {a : Int64} :
    narrowInt64 n = some a ↔ n = a.toInt := by
  rw [narrowInt64]
  constructor
  · intro h
    obtain ⟨⟨hmin, hmax⟩, ha⟩ := Option.ite_none_right_eq_some.1 h
    obtain rfl := Option.some.inj ha
    exact (Int64.toInt_ofInt_of_le hmin (Int.lt_add_one_of_le hmax)).symm
  · rintro rfl
    rw [if_pos ⟨Int64.minValue_le_toInt a, Int64.toInt_le a⟩, Int64.ofInt_toInt]

theorem nullable_read_of_ne_null {d : Document} (h : d ≠ .null) :
    c.nullable.read levels d = (c.read levels d).map some := by
  cases d with
  | null => exact absurd rfl h
  | _ => rfl

theorem nullable_read_eq_ok_none_iff {d : Document} :
    c.nullable.read levels d = .ok none ↔ d = .null := by
  constructor
  · intro h
    by_contra hd
    rw [nullable_read_of_ne_null hd] at h
    obtain ⟨a, -, ha⟩ := Attempt.map_eq_ok_iff.1 h
    cases ha
  · rintro rfl
    rfl

/-- A text is decoded to what its document is read as, if nothing but blanks is left behind it. -/
theorem decode_eq_ok_iff {bytes : List UInt8} {a : α} :
    c.decode bytes = .ok a ↔
      ∃ d, Json.Text.ofBytes bytes = ⟨d, true⟩ ∧ c.read 127 d = .ok a := by
  rw [decode]
  obtain ⟨d, complete⟩ := Json.Text.ofBytes bytes
  simp only [Json.Text.mk.injEq]
  cases hread : c.read 127 d with
  | error p =>
    simp only [reduceCtorEq, false_iff]
    rintro ⟨d, ⟨rfl, -⟩, hd⟩
    rw [hread] at hd
    cases hd
  | ok a' => cases complete <;> simp [hread]

theorem read_of_decode_eq_ok {bytes : List UInt8} {a : α} (h : c.decode bytes = .ok a) :
    c.read 127 (Json.Text.ofBytes bytes).document = .ok a := by
  obtain ⟨d, htext, hread⟩ := decode_eq_ok_iff.1 h
  rw [htext]
  exact hread

end Codec

/-- A member that may be `null` is absent exactly if all members of its name are `null`. There is
one at most. -/
theorem fillSlot_nullable_absent_iff {name : String} {absent short : Option (Option α)}
    {omits : Option α → Bool} {ms : List (Except Defect String × Document)}
    {slot : Option (Option α)}
    (h : fillSlot levels ⟨name, Option α, c.nullable, absent, short, omits⟩ ms none = .ok slot) :
    slot.getD none = none ↔ ∀ m ∈ ms, isNamed name m = true → m.2 = .null := by
  have hnever {m : Except Defect String × Document} {p : Prop} (hm : isNamed name m = false)
      (hnamed : isNamed name m = true) : p := by
    rw [hm] at hnamed
    cases hnamed
  rcases fillSlot_none_eq_ok_iff.1 h with
    ⟨rfl, hnone⟩ | ⟨before, m, after, v, rfl, hm, hread, rfl, hbefore, hafter⟩
  · exact iff_of_true rfl fun m hmem hnamed => hnever (hnone m hmem) hnamed
  · constructor
    · rintro rfl x hx hnamed
      rcases List.mem_append.1 hx with hx | hx
      · exact hnever (hbefore x hx) hnamed
      · rcases List.mem_cons.1 hx with rfl | hx
        · exact Codec.nullable_read_eq_ok_none_iff.1 hread
        · exact hnever (hafter x hx) hnamed
    · intro hnull
      have hread : c.nullable.read levels m.2 = .ok v := hread
      rw [hnull m (by simp) hm] at hread
      exact (Except.ok.inj hread).symm

variable {f : Field} {fs : List Field} {v : f.Value} {rest : Row fs}

theorem Row.map_cons_eq_ok_iff {x : Except Problem (Row fs)} {w : f.Value} :
    (Except.map (Prod.mk w) x : Except Problem (Row (f :: fs))) = .ok (v, rest) ↔
      w = v ∧ x = .ok rest := by
  constructor
  · intro h
    obtain ⟨row, rfl, heq⟩ := Attempt.map_eq_ok_iff.1 h
    obtain ⟨rfl, rfl⟩ := Prod.mk.inj heq
    exact ⟨rfl, rfl⟩
  · rintro ⟨rfl, rfl⟩
    rfl

theorem Slots.row_cons_eq_ok_iff {slot : Option f.Value} {slots : Slots fs} :
    Slots.row (f :: fs) (slot, slots) = .ok (v, rest) ↔
      slot.or f.absent = some v ∧ Slots.row fs slots = .ok rest := by
  rw [Slots.row]
  cases slot.or f.absent with
  | none => simp
  | some w => exact Row.map_cons_eq_ok_iff.trans (by rw [Option.some.injEq])

theorem Row.ofItems_cons_eq_ok_iff {d : Document} {ds : List Document} {stop : Option Break} :
    Row.ofItems levels (f :: fs) (d :: ds) stop = .ok (v, rest) ↔
      f.codec.read levels d = .ok v ∧ Row.ofItems levels fs ds stop = .ok rest := by
  rw [Row.ofItems]
  cases f.codec.read levels d with
  | error p => simp
  | ok w => exact Row.map_cons_eq_ok_iff.trans (by rw [Except.ok.injEq])

/-- A record is decoded as its document is read, if nothing but blanks stands behind it. -/
theorem Layout.decode_of_ofBytes {ρ : Type} {l : Layout ρ} {bytes : List UInt8} {d : Document}
    {complete : Bool} (h : Json.Text.ofBytes bytes = ⟨d, complete⟩) :
    l.decode bytes = l.read 127 d >>= fun r =>
      if complete then .ok r else .error (.defect .malformed) := by
  have hread : l.codec.read 127 d = l.read 127 d := rfl
  simp only [decode, Codec.decode, h, hread]
  cases l.read 127 d <;> rfl

theorem Layout.read_eq_ok {ρ : Type} {l : Layout ρ} {d : Document} {r : ρ}
    (h : l.read (levels + 1) d = .ok r) :
    (∃ ms stop, d = .object ms stop ∧ l.readMembers levels ms stop = .ok r) ∨
      ∃ items stop, d = .list items stop ∧ l.readItems levels items stop = .ok r := by
  cases d with
  | object ms stop => exact .inl ⟨ms, stop, rfl, h⟩
  | list items stop =>
    rw [Layout.read] at h
    split at h
    · exact .inr ⟨items, stop, rfl, h⟩
    · cases h
  | _ => cases h

end VaultPki.Record
