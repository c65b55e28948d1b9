import VaultPki.Http.Header

/-!
# Headers of one name

Defaults fill gaps only: what a request says under a name of its own is all that is said under it,
and under any other name the first default of that name is. Setting a header changes what is found
under its name and nothing else.
-/

namespace VaultPki.Http.Headers

variable {name : String} {hs : Headers}

/-- The headers of one name. -/
def named (name : String) (hs : Headers) : Headers :=
  hs.filter fun h => h.1 == name

theorem named_append (hs hs' : Headers) :
    named name (hs ++ hs' : Headers) = named name hs ++ named name hs' :=
  List.filter_append hs hs'

theorem named_eq_nil (h : ∀ x ∈ hs, x.1 ≠ name) : named name hs = [] := by
  rw [named, List.filter_eq_nil_iff]
  intro x hx
  simpa using h x hx

/-- A name is looked up in vain exactly if no header has it. -/
theorem lookup_eq_none_iff : hs.lookup name = none ↔ named name hs = [] := by
  rw [List.lookup_eq_none_iff, named, List.filter_eq_nil_iff]
  simp only [bne_iff_ne, beq_iff_eq]
  exact forall₂_congr fun x _ => not_congr eq_comm

theorem lookup_cons (n m v : String) (hs : Headers) :
    List.lookup n ((m, v) :: hs) = if n = m then some v else hs.lookup n := by
  rw [List.lookup_cons]
  by_cases hn : n = m
  · rw [if_pos hn, beq_iff_eq.2 hn]
  · rw [if_neg hn, beq_eq_false_iff_ne.2 hn]

theorem lookup_set (name value n : String) (hs : Headers) :
    (set name value hs).lookup n = if n = name then some value else hs.lookup n := by
  induction hs with
  | nil => exact lookup_cons n name value []
  | cons x hs ih =>
    obtain ⟨m, v⟩ := x
    rw [set]
    by_cases hm : m = name
    · subst hm
      rw [if_pos rfl, lookup_cons, lookup_cons]
      by_cases hn : n = m
      · rw [if_pos hn, if_pos hn]
      · rw [if_neg hn, if_neg hn, if_neg hn]
    · rw [if_neg hm, lookup_cons, lookup_cons, ih]
      by_cases hn : n = m
      · rw [if_pos hn, if_pos hn, if_neg (hn ▸ hm)]
      · rw [if_neg hn, if_neg hn]

theorem named_setNew_of_ne {x : String × String} (h : x.1 ≠ name) :
    named name (hs.setNew x) = named name hs := by
  rw [setNew]
  split
  · rfl
  · rw [named_append, named_eq_nil (show ∀ y ∈ [x], y.1 ≠ name by simpa using h), List.append_nil]

theorem named_setNew (h : named name hs ≠ []) (x : String × String) :
    named name (hs.setNew x) = named name hs := by
  by_cases hx : x.1 = name
  · subst hx
    rw [setNew, if_pos (Option.isSome_iff_ne_none.2 (mt lookup_eq_none_iff.1 h))]
  · exact named_setNew_of_ne hx

theorem named_withDefaults (h : named name hs ≠ []) (defaults : Headers) :
    named name (hs.withDefaults defaults) = named name hs := by
  rw [withDefaults]
  induction defaults generalizing hs with
  | nil => rfl
  | cons x defaults ih =>
    have hx := named_setNew h x
    rw [List.foldl_cons, ih (by rwa [hx]), hx]

/-- Under a name that a request does not set, it says what the first default says. -/
theorem named_withDefaults_of_eq_nil (h : named name hs = []) (defaults : Headers) :
    named name (hs.withDefaults defaults) =
      ((defaults.lookup name).map fun v => (name, v)).toList := by
  rw [withDefaults]
  induction defaults generalizing hs with
  | nil => exact h
  | cons x defaults ih =>
    obtain ⟨n, v⟩ := x
    by_cases hn : n = name
    · subst hn
      have hx : named n (hs.setNew (n, v)) = [(n, v)] := by
        rw [setNew, lookup_eq_none_iff.2 h]
        show named n (hs ++ [(n, v)] : Headers) = _
        rw [named_append, h]
        simp [named]
      have hrest := named_withDefaults (by rw [hx]; exact List.cons_ne_nil _ _) defaults
      rw [List.foldl_cons, lookup_cons, if_pos rfl, ← withDefaults, hrest, hx]
      rfl
    · rw [List.foldl_cons, ih ((named_setNew_of_ne hn).trans h), lookup_cons, if_neg (Ne.symm hn)]

/-! ## Members -/

theorem mem_withDefaults {x : String × String} {defaults : Headers}
    (h : x ∈ hs.withDefaults defaults) : x ∈ hs ∨ x ∈ defaults := by
  rw [withDefaults] at h
  induction defaults generalizing hs with
  | nil => exact .inl h
  | cons d defaults ih =>
    rcases ih h with h | h
    · rw [setNew] at h
      split at h
      · exact .inl h
      · rcases List.mem_append.1 h with h | h
        · exact .inl h
        · rw [List.mem_singleton.1 h]
          exact .inr List.mem_cons_self
    · exact .inr (List.mem_cons_of_mem d h)

theorem mem_set {value : String} {x : String × String} (h : x ∈ set name value hs) :
    x = (name, value) ∨ x ∈ hs := by
  induction hs with
  | nil => exact .inl (List.mem_singleton.1 h)
  | cons y hs ih =>
    obtain ⟨n, v⟩ := y
    rw [set] at h
    split at h
    · next hn =>
      rw [hn, List.mem_cons] at h
      exact h.imp_right (List.mem_cons_of_mem _)
    · rcases List.mem_cons.1 h with rfl | h
      · exact .inr List.mem_cons_self
      · exact (ih h).imp_right (List.mem_cons_of_mem _)

end VaultPki.Http.Headers
