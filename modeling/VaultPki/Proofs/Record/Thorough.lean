import VaultPki.Proofs.Record.Flat
import VaultPki.Proofs.Record.Shapes

/-!
# Nothing broken is read

Where a record without fragments is read, nothing in the document of it is broken: what is not the
value of a field is skimmed, and the values of fields are read by codecs of which the same is true.
-/

namespace VaultPki.Record

open VaultPki.Json (Document Problem Break)

variable {α : Type} {levels : Nat}

/-- Whether skimming finds no defect in what a codec reads. -/
def Codec.IsThorough (c : Codec α) : Prop :=
  ∀ levels d a, c.read levels d = .ok a → d.skim = none

namespace Codec

@[simp] theorem text_isThorough : text.IsThorough := by
  intro levels d s h
  have hd : text.Denotes levels d s := h
  rw [denotes_text, IsText] at hd
  rw [hd]
  rfl

@[simp] theorem list_isThorough {c : Codec α} (hc : c.IsThorough) : c.list.IsThorough := by
  intro levels d as h
  cases levels with
  | zero => cases d <;> cases h
  | succ levels =>
    have hitems {items : List Document} {as : List α}
        (h : List.Forall₂ (c.Denotes levels) items as) : ∀ d ∈ items, d.skim = none := by
      induction h with
      | nil => exact nofun
      | cons hread _ ih => exact List.forall_mem_cons.2 ⟨hc levels _ _ hread, ih⟩
    have hd : c.list.Denotes (levels + 1) d as := h
    rw [denotes_list] at hd
    obtain ⟨items, rfl, hread⟩ := hd
    exact Document.skimItems_eq_none_iff.2 ⟨rfl, hitems hread⟩

@[simp] theorem flag_isThorough : flag.IsThorough := by
  intro levels d b h
  have hd : flag.Denotes levels d b := h
  rw [denotes_flag, IsFlag] at hd
  rw [hd]
  rfl

@[simp] theorem uint32_isThorough : uint32.IsThorough := by
  intro levels d n h
  obtain ⟨i, rfl, -⟩ := integer_read_eq_ok_iff.1 h
  rfl

@[simp] theorem duration_isThorough : duration.IsThorough := by
  intro levels d v h
  have hd : duration.Denotes levels d v := h
  rw [denotes_duration] at hd
  rcases hd with ⟨rfl, -⟩ | ⟨-, s, rfl | ⟨n, rfl, -⟩, -⟩ <;> rfl

@[simp] theorem nullable_isThorough {c : Codec α} (hc : c.IsThorough) :
    c.nullable.IsThorough := by
  intro levels d v h
  by_cases hd : d = .null
  · rw [hd]
    rfl
  · rw [nullable_read_of_ne_null hd] at h
    obtain ⟨a, ha, -⟩ := Attempt.map_eq_ok_iff.1 h
    exact hc levels d a ha

end Codec

variable {fs : List Field}

theorem Slots.exists_read_of_fill {name : String} {d : Document} {slots slots' : Slots fs}
    (h : fill levels name d fs slots = some (.ok slots')) :
    ∃ f ∈ fs, ∃ v, f.codec.read levels d = .ok v := by
  induction fs with
  | nil => cases h
  | cons f fs ih =>
    obtain ⟨slot, rest⟩ := slots
    simp only [fill] at h
    by_cases hname : f.name = name
    · rw [if_pos hname] at h
      cases slot with
      | some v => cases h
      | none =>
        obtain ⟨v, hread, -⟩ := Attempt.map_eq_ok_iff.1 (Option.some.inj h)
        exact ⟨f, List.mem_cons_self, v, hread⟩
    · rw [if_neg hname] at h
      obtain ⟨filled, hfill, hmap⟩ := Option.map_eq_some_iff.1 h
      obtain ⟨slots, rfl, -⟩ := Attempt.map_eq_ok_iff.1 hmap
      obtain ⟨g, hg, hread⟩ := ih hfill
      exact ⟨g, List.mem_cons_of_mem f hg, hread⟩

namespace Layout

variable {ρ : Type} {l : Layout ρ}

theorem skim_of_gather {ms : Members} {stop : Option Break} {g g' : Gathered fs}
    (hfs : ∀ f ∈ fs, f.codec.IsThorough) (h : gather fs false levels ms stop g = .ok g') :
    Document.skimMembers ms stop = none := by
  induction ms generalizing g with
  | nil =>
    cases stop with
    | none => rfl
    | some b => cases h
  | cons m ms ih =>
    obtain ⟨name, d⟩ := m
    cases name with
    | error defect => cases h
    | ok name =>
      suffices hrest : d.skim = none ∧ ∃ next, gather fs false levels ms stop next = .ok g' by
        obtain ⟨hskim, next, hnext⟩ := hrest
        rw [Document.skimMembers, hskim]
        exact ih hnext
      rw [gather] at h
      split at h
      · cases h
      · next slots hfill =>
        obtain ⟨f, hf, v, hread⟩ := Slots.exists_read_of_fill hfill
        exact ⟨hfs f hf levels d v hread, _, h⟩
      · split at h
        · cases h
        · next hother =>
          refine ⟨?_, _, h⟩
          rw [other, if_neg Bool.false_ne_true] at hother
          split at hother
          · assumption
          · cases hother

theorem skim_of_ofItems {items : List Document} {stop : Option Break} {row : Row fs}
    (hfs : ∀ f ∈ fs, f.codec.IsThorough) (h : Row.ofItems levels fs items stop = .ok row) :
    Document.skimItems items stop = none := by
  induction fs generalizing items with
  | nil =>
    cases items with
    | nil => cases stop with
      | none => rfl
      | some b => cases h
    | cons d items => cases h
  | cons f fs ih =>
    obtain ⟨v, rest⟩ := row
    cases items with
    | nil => cases stop with
      | none => rfl
      | some b => cases h
    | cons d items =>
      obtain ⟨hread, hrest⟩ := Row.ofItems_cons_eq_ok_iff.1 h
      rw [Document.skimItems, hfs f List.mem_cons_self levels d v hread]
      exact ih (fun g hg => hfs g (List.mem_cons_of_mem f hg)) hrest

theorem IsFlat.isThorough (h : l.IsFlat) (hown : ∀ f ∈ l.own, f.codec.IsThorough) :
    l.codec.IsThorough := by
  intro levels d r hread
  cases levels with
  | zero =>
    cases d with
    | list items stop =>
      have hread : (if l.spread.isEmpty then _ else _ : Except Problem ρ) = .ok r := hread
      rw [if_pos (List.isEmpty_iff.2 h.spread_eq_nil)] at hread
      cases hread
    | _ => cases hread
  | succ levels =>
    rcases read_eq_ok hread with ⟨ms, stop, rfl, hms⟩ | ⟨items, stop, rfl, hitems⟩
    · obtain ⟨g, hgather, -⟩ := h.readMembers_eq_ok_iff.1 hms
      exact skim_of_gather hown hgather
    · exact skim_of_ofItems hown (h.readItems_eq_ok_iff.1 hitems)

/-- Members of which a record is read are whole, and nothing stops behind them. -/
theorem IsFlat.areWhole_of_read (h : l.IsFlat) (hown : ∀ f ∈ l.own, f.codec.IsThorough)
    {ms : Members} {stop : Option Break} {r : ρ}
    (hread : l.read (levels + 1) (.object ms stop) = .ok r) : stop = none ∧ ms.AreWhole := by
  have hskim : Document.skimMembers ms stop = none :=
    h.isThorough hown (levels + 1) (.object ms stop) r hread
  obtain ⟨hstop, hdocs⟩ := Document.skimMembers_eq_none_iff.1 hskim
  obtain ⟨g, hgather, -⟩ := h.readMembers_eq_ok_iff.1 hread
  exact ⟨hstop, fun m hm => ⟨names_of_gather_eq_ok hgather m hm, hdocs m hm⟩⟩

end Layout

end VaultPki.Record
