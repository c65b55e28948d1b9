import VaultPki.Proofs.Record.Reading
import VaultPki.Proofs.Record.Refusals

/-!
# Records without fragments

A record that spreads no fragments is read from an object, by the members of the names of its
fields, or from the list of its values. It is refused for the kind of a value if all values are
judged and the list is not too long.
-/

namespace VaultPki.Record

open VaultPki.Json (Document Problem Defect Break)

variable {levels : Nat}

/-! ## Regular fields -/

namespace Field

/-- Whether a field may be missing at the end of a list of values where it may be missing in an
object, with the same value then, and judges what is legible. Fields of the names in `full` may ask
that it can be read in full. -/
structure IsRegular (full : List String) (f : Field) : Prop where
  short_eq_absent : f.short = f.absent
  judges : ∀ levels d, d.IsLegible → (f.name ∈ full → d.IsReadable (levels + 1)) →
    f.codec.Judges (levels + 1) d

variable {α : Type} {c : Codec α} {full : List String}

theorem isRegular_of_isFair {f : Field} (hshort : f.short = f.absent) (hf : f.codec.IsFair) :
    f.IsRegular full :=
  ⟨hshort, fun levels d hd _ => hf levels d hd⟩

@[simp] theorem required_isRegular (name : String) (hc : c.IsFair) :
    (required name c).IsRegular full :=
  isRegular_of_isFair rfl hc

@[simp] theorem defaulted_isRegular (name : String) (hc : c.IsFair) (value : α) :
    (defaulted name c value).IsRegular full :=
  isRegular_of_isFair rfl hc

@[simp] theorem optionalLast_isRegular (name : String) (hc : c.IsFair) :
    (optionalLast name c).IsRegular full :=
  isRegular_of_isFair rfl (Codec.nullable_isFair hc)

@[simp] theorem nullable_isRegular (name : String) (hc : c.IsFair) :
    (nullable name c).IsRegular full :=
  isRegular_of_isFair rfl (Codec.nullable_isFair hc)

@[simp] theorem duration_isRegular {name : String} (h : name ∈ full) :
    (duration name).IsRegular full :=
  ⟨rfl, fun _ _ _ hreadable => Codec.duration_judges (hreadable h)⟩

end Field

/-! ## Flat layouts -/

namespace Layout

variable {ρ : Type} {l : Layout ρ} {r : ρ}

/-- Whether a layout spreads no fragments and its fields have different names. -/
structure IsFlat (l : Layout ρ) : Prop where
  spread_eq_nil : l.spread = []
  nodup_names : l.names.Nodup

theorem names_of_gather_eq_ok {fields : List Field} {keeps : Bool} {ms : Members}
    {stop : Option Break} {g g' : Gathered fields}
    (h : gather fields keeps levels ms stop g = .ok g') : ∀ m ∈ ms, ∃ name, m.1 = .ok name := by
  induction ms generalizing g with
  | nil => exact nofun
  | cons m ms ih =>
    obtain ⟨name, d⟩ := m
    cases name with
    | error defect => cases h
    | ok name =>
      suffices hrest : ∃ next, gather fields keeps levels ms stop next = .ok g' by
        obtain ⟨next, hnext⟩ := hrest
        exact List.forall_mem_cons.2 ⟨⟨name, rfl⟩, ih hnext⟩
      rw [gather] at h
      split at h
      · cases h
      · exact ⟨_, h⟩
      · split at h
        · cases h
        · exact ⟨_, h⟩

theorem spreadSlots_nil (kept : List (String × Document)) :
    spreadSlots levels [] kept () = .ok () := by
  induction kept with
  | nil => rfl
  | cons m kept ih => exact ih

theorem names_of_spread_eq_nil (hspread : l.spread = []) : l.names = l.own.map Field.name := by
  rw [names, hspread, List.append_nil]

namespace IsFlat

theorem names_eq (h : l.IsFlat) : l.names = l.own.map Field.name :=
  names_of_spread_eq_nil h.spread_eq_nil

theorem name_mem (h : l.IsFlat) {f : Field} (hf : f ∈ l.own) : f.name ∈ l.names := by
  rw [h.names_eq]
  exact List.mem_map_of_mem hf

theorem nodup_own (h : l.IsFlat) : (l.own.map Field.name).Nodup :=
  h.names_eq ▸ h.nodup_names

theorem readMembers_eq_ok_iff (h : l.IsFlat) {ms : Members} {stop : Option Break} :
    l.readMembers levels ms stop = .ok r ↔
      ∃ g, gather l.own false levels ms stop ⟨.empty l.own, []⟩ = .ok g ∧
        g.slots.row = .ok (l.row r).1 := by
  obtain ⟨own, spread, row, ofRow, hofRow, hrow⟩ := l
  obtain rfl : spread = [] := h.spread_eq_nil
  constructor
  · intro hread
    obtain ⟨g, hgather, hread⟩ := Attempt.bind_eq_ok_iff.1 hread
    obtain ⟨values, hvalues, hread⟩ := Attempt.bind_eq_ok_iff.1 hread
    obtain ⟨slots, -, hread⟩ := Attempt.bind_eq_ok_iff.1 hread
    obtain ⟨rest, -, hread⟩ := Attempt.bind_eq_ok_iff.1 hread
    obtain rfl : ofRow (values, rest) = r := Except.ok.inj hread
    have hvalue : (row (ofRow (values, rest))).1 = values := by rw [hrow]
    exact ⟨g, hgather, hvalues.trans (congrArg Except.ok hvalue.symm)⟩
  · rintro ⟨g, hgather, hvalues⟩
    have hr : ofRow ((row r).1, ()) = r := hofRow r
    rw [readMembers, List.isEmpty_nil, Bool.not_true, hgather]
    show (g.slots.row >>= _) = _
    rw [hvalues]
    show (spreadSlots levels [] g.kept () >>= _) = _
    rw [spreadSlots_nil]
    exact congrArg Except.ok hr

theorem readItems_eq_ok_iff (h : l.IsFlat) {items : List Document} {stop : Option Break} :
    l.readItems levels items stop = .ok r ↔
      Row.ofItems levels l.own items stop = .ok (l.row r).1 := by
  obtain ⟨own, spread, row, ofRow, hofRow, hrow⟩ := l
  obtain rfl : spread = [] := h.spread_eq_nil
  constructor
  · intro hread
    obtain ⟨values, hvalues, hread⟩ := Attempt.bind_eq_ok_iff.1 hread
    obtain ⟨rest, -, hread⟩ := Attempt.bind_eq_ok_iff.1 hread
    obtain rfl : ofRow (values, rest) = r := Except.ok.inj hread
    have hvalue : (row (ofRow (values, rest))).1 = values := by rw [hrow]
    exact hvalues.trans (congrArg Except.ok hvalue.symm)
  · intro hvalues
    have hr : ofRow ((row r).1, ()) = r := hofRow r
    rw [readItems, hvalues]
    exact congrArg Except.ok hr

/-- A record is read from whole members exactly if its row takes them. -/
theorem read_object_iff (h : l.IsFlat) {ms : Members} (hwhole : ms.AreWhole) :
    l.read (levels + 1) (.object ms none) = .ok r ↔ Row.Takes levels ms l.own (l.row r).1 :=
  h.readMembers_eq_ok_iff.trans (gather_row_iff hwhole h.nodup_own)

/-- A record is read from a list of values, one for each field in order, of which the last may be
missing where there is a value for that. -/
theorem read_list_iff (h : l.IsFlat) (hshort : ∀ f ∈ l.own, f.short = f.absent)
    {items : List Document} :
    l.read (levels + 1) (.list items none) = .ok r ↔
      items.length ≤ l.names.length ∧
        Row.Takes levels (inOrder l.names items) l.own (l.row r).1 := by
  have hempty : l.spread.isEmpty = true := List.isEmpty_iff.2 h.spread_eq_nil
  rw [h.names_eq, List.length_map, read, if_pos hempty]
  exact h.readItems_eq_ok_iff.trans (Row.ofItems_eq_ok_iff hshort h.nodup_own)

/-- Where nothing is broken, a record is read from an object or a list of values and from nothing
else. -/
theorem denotes_iff (h : l.IsFlat) (hshort : ∀ f ∈ l.own, f.short = f.absent) {d : Document}
    (hskim : d.skim = none) :
    l.codec.Denotes (levels + 1) d r ↔
      (∃ ms : Members, d = .object ms none ∧ ms.AreWhole ∧
        Row.Takes levels ms l.own (l.row r).1) ∨
      ∃ items, d = .list items none ∧ items.length ≤ l.names.length ∧
        Row.Takes levels (inOrder l.names items) l.own (l.row r).1 := by
  constructor
  · intro hread
    rcases read_eq_ok hread with ⟨ms, stop, rfl, hms⟩ | ⟨items, stop, rfl, hitems⟩
    · obtain ⟨rfl, hdocs⟩ := Document.skimMembers_eq_none_iff.1 hskim
      obtain ⟨g, hgather, -⟩ := h.readMembers_eq_ok_iff.1 hms
      have hwhole : Members.AreWhole ms :=
        fun m hm => ⟨names_of_gather_eq_ok hgather m hm, hdocs m hm⟩
      exact .inl ⟨ms, rfl, hwhole, (h.read_object_iff hwhole).1 hread⟩
    · obtain ⟨rfl, -⟩ := Document.skimItems_eq_none_iff.1 hskim
      exact .inr ⟨items, rfl, (h.read_list_iff hshort).1 hread⟩
  · rintro (⟨ms, rfl, hwhole, htakes⟩ | ⟨items, rfl, htakes⟩)
    · exact (h.read_object_iff hwhole).2 htakes
    · exact (h.read_list_iff hshort).2 htakes

/-- Of whole members only those of the names of the fields can be refused, for their kind where each
of them is. -/
theorem object_judges (h : l.IsFlat) {ms : Members} (hwhole : ms.AreWhole)
    (hjudges : ∀ f ∈ l.own, ∀ d ∈ named f.name ms, f.codec.Judges levels d) :
    l.codec.Judges (levels + 1) (.object ms none) := by
  obtain ⟨own, spread, row, ofRow, hofRow, hrow⟩ := l
  obtain rfl : spread = [] := h.spread_eq_nil
  intro p hread
  rcases Attempt.bind_eq_error_iff.1 hread with hgather | ⟨g, -, hread⟩
  · exact eq_mismatch_of_gather hwhole hjudges hgather
  rcases Attempt.bind_eq_error_iff.1 hread with hrow | ⟨values, -, hread⟩
  · exact Slots.eq_mismatch_of_row hrow
  rcases Attempt.bind_eq_error_iff.1 hread with hspread | ⟨slots, -, hread⟩
  · have hspread : spreadSlots levels [] g.kept () = .error p := hspread
    rw [spreadSlots_nil] at hspread
    cases hspread
  · cases hread

theorem list_judges (h : l.IsFlat) {items : List Document} (hlength : items.length ≤ l.names.length)
    (hjudges : ∀ f ∈ l.own, ∀ d ∈ named f.name (inOrder l.names items),
      f.codec.Judges levels d) :
    l.codec.Judges (levels + 1) (.list items none) := by
  rw [h.names_eq] at hjudges
  rw [h.names_eq, List.length_map] at hlength
  obtain ⟨own, spread, row, ofRow, hofRow, hrow⟩ := l
  obtain rfl : spread = [] := h.spread_eq_nil
  intro p hread
  rcases Attempt.bind_eq_error_iff.1 hread with hitems | ⟨values, -, hread⟩
  · exact Row.eq_mismatch_of_ofItems hlength hjudges hitems
  · cases hread

end IsFlat

end Layout

end VaultPki.Record
