import VaultPki.Proofs.Answers
import VaultPki.Proofs.Envelope

/-!
# Where a record was read from

Where a record can be read, it is what the members of its document say. A list of values is taken
for the object in which they have the names of the fields in order.
-/

namespace VaultPki

open Record
open Json (Document Problem Break)

/-- The members of a record: those of an object, or the values of a list, which are named in
order. -/
def Json.Document.membersAs (names : List String) : Document → Members
  | .object ms _ => ms
  | .list items _ => inOrder names items
  | _ => []

namespace Record

variable {levels : Nat}

theorem Row.stop_of_ofItems {fs : List Field} {items : List Document} {stop : Option Break}
    {row : Row fs} (h : ofItems levels fs items stop = .ok row) : stop = none := by
  induction fs generalizing items with
  | nil =>
    cases items with
    | nil => cases stop with
      | none => rfl
      | some b => cases h
    | cons d items => cases h
  | cons f fs ih =>
    obtain ⟨v, rest⟩ := row
    cases items with
    | nil => cases stop with
      | none => rfl
      | some b => cases h
    | cons d items => exact ih (Row.ofItems_cons_eq_ok_iff.1 h).2

theorem Layout.IsFlat.takes_of_read {ρ : Type} {l : Layout ρ} (h : l.IsFlat)
    (hshort : ∀ f ∈ l.own, f.short = f.absent) {d : Document} {r : ρ}
    (hread : l.read (levels + 1) d = .ok r) :
    Row.Takes levels (d.membersAs l.names) l.own (l.row r).1 := by
  rcases read_eq_ok hread with ⟨ms, stop, rfl, hms⟩ | ⟨items, stop, rfl, hitems⟩
  · obtain ⟨g, hgather, hrow⟩ := h.readMembers_eq_ok_iff.1 hms
    exact takes_of_gather h.nodup_own hgather hrow
  · obtain rfl := Row.stop_of_ofItems (h.readItems_eq_ok_iff.1 hitems)
    exact ((h.read_list_iff hshort).1 hread).2

end Record

/-- A record that was read is what its members say. -/
theorem AnswerRecord.reads_of_read {levels : Nat} {k : AnswerRecord} {d : Document} {v : k.Data}
    (h : k.layout.read (levels + 2) d = .ok v) : k.Reads (d.membersAs k.layout.names) v :=
  k.takes_iff.1 (k.isFlat.takes_of_read (fun f hf => (k.isRegular f hf).short_eq_absent) h)

/-- The names of the members of an envelope. -/
def Envelope.names : List String :=
  ["data", "warnings", "errors"]

/-- The data of an envelope were read from the one document under their name. -/
theorem Envelope.exists_data_of_read {α : Type} {c : Codec α} {levels : Nat} {d : Document}
    {e : Envelope α} {a : α} (h : (layout c).read (levels + 1) d = .ok e)
    (hdata : e.data = some a) :
    ∃ d', named "data" (d.membersAs names) = [d'] ∧ c.read levels d' = .ok a := by
  have hflat : (layout c).IsFlat :=
    ⟨rfl, by simp [Layout.names, layout, Layout.plain, fields, Field.nullable, Field.nullableFirst]⟩
  have hread {d' : Document} (h : OrNull (c.Denotes levels) d' (some a)) :
      c.read levels d' = .ok a := by
    rcases h with ⟨-, hsome⟩ | ⟨-, a', ha', hsome⟩
    · cases hsome
    · rwa [Option.some.inj hsome]
  rcases Layout.read_eq_ok h with ⟨ms, stop, rfl, hms⟩ | ⟨items, stop, rfl, hitems⟩
  · obtain ⟨g, hgather, hrow⟩ := hflat.readMembers_eq_ok_iff.1 hms
    have htakes : (Field.nullableFirst "data" c).Takes levels ms e.data :=
      (Layout.takes_of_gather hflat.nodup_own hgather hrow).1
    rw [Field.takes_nullableFirst, hdata] at htakes
    rcases htakes with ⟨-, habsent⟩ | ⟨d', hone, hd'⟩
    · cases habsent
    · exact ⟨d', hone, hread hd'⟩
  · have hrow := hflat.readItems_eq_ok_iff.1 hitems
    cases items with
    | nil => cases stop <;> cases hrow
    | cons d' items =>
      have hvalue : c.nullable.Denotes levels d' e.data := (Row.ofItems_cons_eq_ok_iff.1 hrow).1
      rw [Codec.denotes_nullable, hdata] at hvalue
      refine ⟨d', ?_, hread hvalue⟩
      exact (named_cons_self ..).trans
        (congrArg (d' :: ·) (named_inOrder_eq_nil (by decide) items))

end VaultPki
