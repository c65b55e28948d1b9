import VaultPki.Proofs.Attempt

/-!
# The first failure

Several things are tried one after the other, and the first that cannot be done is the reason why
the whole fails. Which one that is can be said of the list of all of them, before any is tried.
-/

namespace VaultPki.Attempt

variable {α β γ δ ε : Type} {p : β → Prop} {x y : β} {xs ys : List β}

/-- Whether something is the first in a list for which `p` does not hold. -/
def IsFirstWithout (p : β → Prop) (xs : List β) (x : β) : Prop :=
  ∃ before after, xs = before ++ x :: after ∧ (∀ y ∈ before, p y) ∧ ¬p x

theorem not_isFirstWithout_nil : ¬IsFirstWithout p [] x := by
  rintro ⟨before, after, h, -⟩
  cases before <;> cases h

theorem isFirstWithout_cons_iff :
    IsFirstWithout p (y :: ys) x ↔ (¬p y ∧ y = x) ∨ (p y ∧ IsFirstWithout p ys x) := by
  constructor
  · rintro ⟨before, after, h, hbefore, hx⟩
    cases before with
    | nil =>
      obtain ⟨rfl, -⟩ := List.cons.inj h
      exact .inl ⟨hx, rfl⟩
    | cons z before =>
      obtain ⟨rfl, rfl⟩ := List.cons.inj h
      exact .inr ⟨hbefore _ List.mem_cons_self, before, after, rfl,
        fun w hw => hbefore w (List.mem_cons_of_mem _ hw), hx⟩
  · rintro (⟨hy, rfl⟩ | ⟨hy, before, after, rfl, hbefore, hx⟩)
    · exact ⟨[], ys, rfl, nofun, hy⟩
    · refine ⟨y :: before, after, rfl, fun w hw => ?_, hx⟩
      rcases List.mem_cons.1 hw with rfl | hw
      · exact hy
      · exact hbefore w hw

theorem isFirstWithout_append_iff :
    IsFirstWithout p (xs ++ ys) x ↔
      IsFirstWithout p xs x ∨ (∀ y ∈ xs, p y) ∧ IsFirstWithout p ys x := by
  induction xs with
  | nil => simp [not_isFirstWithout_nil]
  | cons y xs ih =>
    rw [List.cons_append, isFirstWithout_cons_iff, isFirstWithout_cons_iff, ih,
      List.forall_mem_cons]
    tauto

theorem isFirstWithout_map_iff {f : γ → β} {zs : List γ} :
    IsFirstWithout p (zs.map f) x ↔ ∃ z, IsFirstWithout (fun z => p (f z)) zs z ∧ f z = x := by
  induction zs with
  | nil => simp [not_isFirstWithout_nil]
  | cons z zs ih =>
    simp only [List.map_cons, isFirstWithout_cons_iff, ih, or_and_right, exists_or, and_assoc,
      exists_and_left]
    simp

theorem exists_isFirstWithout_iff : (∃ x, IsFirstWithout p xs x) ↔ ∃ x ∈ xs, ¬p x := by
  induction xs with
  | nil => simp [not_isFirstWithout_nil]
  | cons y xs ih =>
    simp only [isFirstWithout_cons_iff, exists_or, exists_and_left, ih, List.exists_mem_cons_iff]
    by_cases hy : p y <;> simp [hy]

/-- Whether an attempt fails with the first in a list for which `p` does not hold, and only then. -/
def FailsAtFirst (p : β → Prop) (failure : β → ε) (xs : List β) (t : Except ε α) : Prop :=
  ∀ e, t = .error e ↔ ∃ x, IsFirstWithout p xs x ∧ e = failure x

namespace FailsAtFirst

variable {failure : β → ε} {t : Except ε α}

theorem exists_ok_iff (h : FailsAtFirst p failure xs t) :
    (∃ a, t = .ok a) ↔ ∀ x ∈ xs, p x := by
  have hfirst : (∃ e, t = .error e) ↔ ∃ x ∈ xs, ¬p x := by
    rw [← exists_isFirstWithout_iff]
    constructor
    · rintro ⟨e, he⟩
      obtain ⟨x, hx, -⟩ := (h e).1 he
      exact ⟨x, hx⟩
    · rintro ⟨x, hx⟩
      exact ⟨_, (h _).2 ⟨x, hx, rfl⟩⟩
  cases t with
  | ok a =>
    refine iff_of_true ⟨a, rfl⟩ ?_
    simpa using hfirst
  | error e =>
    refine iff_of_false nofun ?_
    simpa using hfirst

theorem ok (a : α) : FailsAtFirst p failure [] (.ok a) := by
  intro e
  simp [not_isFirstWithout_nil]

theorem bind {f : α → Except ε γ} (h : FailsAtFirst p failure xs t)
    (hf : ∀ a, FailsAtFirst p failure ys (f a)) : FailsAtFirst p failure (xs ++ ys) (t >>= f) := by
  intro e
  have hrest : (∃ a, t = .ok a ∧ f a = .error e) ↔
      (∀ x ∈ xs, p x) ∧ ∃ x, IsFirstWithout p ys x ∧ e = failure x := by
    rw [← h.exists_ok_iff, ← exists_and_right]
    exact exists_congr fun a => and_congr_right fun _ => hf a e
  simp only [bind_eq_error_iff, h e, hrest, isFirstWithout_append_iff, or_and_right, exists_or,
    and_assoc, exists_and_left]

theorem map {f : α → γ} (h : FailsAtFirst p failure xs t) :
    FailsAtFirst p failure xs (t.map f) := by
  intro e
  rw [map_eq_error_iff, h e]

theorem bind_return {f : α → γ} (h : FailsAtFirst p failure xs t) :
    FailsAtFirst p failure xs (t >>= fun a => return f a) := by
  have hbind := h.bind fun a => ok (f a)
  rwa [List.append_nil] at hbind

/-- The list may be one of things that carry more than is tried. -/
theorem of_map {f : δ → β} {zs : List δ}
    (h : FailsAtFirst (fun z => p (f z)) (fun z => failure (f z)) zs t) :
    FailsAtFirst p failure (zs.map f) t := by
  intro e
  rw [h e]
  simp only [isFirstWithout_map_iff]
  constructor
  · rintro ⟨z, hz, rfl⟩
    exact ⟨f z, ⟨z, hz, rfl⟩, rfl⟩
  · rintro ⟨x, ⟨z, hz, rfl⟩, rfl⟩
    exact ⟨z, hz, rfl⟩

end FailsAtFirst

end VaultPki.Attempt
