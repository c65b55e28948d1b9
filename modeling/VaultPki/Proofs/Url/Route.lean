import VaultPki.Proofs.Url.Path

/-!
# Where a text leads from a place

A text that continues a path leads up and down from the place that the path is. All that the place
decides is how far up two dots can go; what the text leads down to is its own.
-/

namespace VaultPki.Url.Path

open Text.Commas (splitAt)

/-! ## Going up -/

/-- The segments of a place that are passed when going up a number of times: all up to the first
drive. -/
def passed (times : Nat) (place : List (List Char)) : List (List Char) :=
  (place.take times).takeWhile fun s => !beginsWithDrive s

/-- The place that is reached by going up a number of times. -/
def above (times : Nat) (place : List (List Char)) : List (List Char) :=
  place.drop (passed times place).length

theorem passed_append_above (times : Nat) (place : List (List Char)) :
    passed times place ++ above times place = place := by
  have hprefix : passed times place <+: place :=
    (List.takeWhile_prefix _).trans (List.take_prefix times place)
  exact List.prefix_iff_eq_append.1 hprefix

theorem pop_above (times : Nat) (place : List (List Char)) :
    pop (above times place) = above (times + 1) place := by
  induction place generalizing times with
  | nil => simp [above, pop]
  | cons s place ih =>
    cases times with
    | zero =>
      cases hs : beginsWithDrive s <;> simp [above, passed, pop, hs]
    | succ times =>
      have ih := ih times
      cases hs : beginsWithDrive s <;> simp_all [above, passed, pop]

theorem passed_zero (place : List (List Char)) : passed 0 place = [] := rfl

/-! ## Routes -/

/-- Where a text leads: how many times it goes above the place where it starts, and the segments
below the highest place that it comes to, the last one first. -/
structure Route where
  climbed : Nat
  below : List (List Char)
  deriving DecidableEq

namespace Route

/-- The route that has not begun. -/
def start : Route :=
  ⟨0, []⟩

/-- Goes up: from the highest place so far above it, otherwise by one of the segments below. -/
def up (r : Route) : Route :=
  match r.below with
  | [] => ⟨r.climbed + 1, []⟩
  | s :: rest => ⟨r.climbed, pop (s :: rest)⟩

/-- Goes down by a segment. -/
def down (r : Route) (s : List Char) : Route :=
  ⟨r.climbed, s :: r.below⟩

/-- Follows segments from left to right. -/
def follow (r : Route) : List (List Char) → Route
  | [] => r
  | s :: rest =>
    let atEnd (r : Route) : Route := if rest.isEmpty then r.down [] else r
    if isDoubleDot (encoded s) then (atEnd r.up).follow rest
    else if isSingleDot (encoded s) then (atEnd r).follow rest
    else (r.down (encoded s)).follow rest

/-- The route of a text in addresses on the web. -/
def of (text : List Char) : Route :=
  start.follow (splitAt '/' (text.map (unifySlash true)))

/-- The place that a route leads to. -/
def leadsTo (r : Route) (place : List (List Char)) : List (List Char) :=
  r.below ++ above r.climbed place

/-- Whether a route leads somewhere below the place where it starts: whatever it has passed on its
way up it also goes down again, and further. -/
def StaysBelow (r : Route) (place : List (List Char)) : Prop :=
  passed r.climbed place <:+ r.below ∧ passed r.climbed place ≠ r.below

theorem leadsTo_up (r : Route) (place : List (List Char)) :
    r.up.leadsTo place = pop (r.leadsTo place) := by
  obtain ⟨climbed, below⟩ := r
  cases below with
  | nil =>
    show above (climbed + 1) place = pop (above climbed place)
    rw [pop_above]
  | cons s rest =>
    show pop (s :: rest) ++ above climbed place = pop (s :: (rest ++ above climbed place))
    rw [pop, pop]
    split <;> rfl

theorem leadsTo_down (r : Route) (s : List Char) (place : List (List Char)) :
    (r.down s).leadsTo place = s :: r.leadsTo place := rfl

end Route

/-! ## Following segments -/

namespace Route

/-- Every route ends by going down, if only by an empty segment. -/
theorem below_follow_ne_nil {r : Route} {ss : List (List Char)} (hss : ss ≠ []) :
    (r.follow ss).below ≠ [] := by
  induction ss generalizing r with
  | nil => exact absurd rfl hss
  | cons s ss ih =>
    rw [follow]
    cases ss with
    | nil =>
      show (if isDoubleDot (encoded s) then r.up.down []
        else if isSingleDot (encoded s) then r.down [] else r.down (encoded s) : Route).below ≠ []
      repeat' split
      all_goals exact List.cons_ne_nil _ _
    | cons t ss =>
      repeat' split
      all_goals exact ih (List.cons_ne_nil t ss)

theorem climbed_follow {r : Route} {ss : List (List Char)}
    (h : ∀ s ∈ ss, isDoubleDot (encoded s) = false) : (r.follow ss).climbed = r.climbed := by
  induction ss generalizing r with
  | nil => rfl
  | cons s ss ih =>
    have ih := fun r => ih (r := r) fun x hx => h x (List.mem_cons_of_mem s hx)
    rw [follow, h s List.mem_cons_self, if_neg Bool.false_ne_true]
    split
    · rw [ih]
      split <;> rfl
    · rw [ih]
      rfl

/-- A text without two dots between its slashes stays below every place. -/
theorem staysBelow_of_no_double_dot {text : List Char} (place : List (List Char))
    (h : ∀ s ∈ splitAt '/' (text.map (unifySlash true)), isDoubleDot (encoded s) = false) :
    (of text).StaysBelow place := by
  have hclimbed : (of text).climbed = 0 := climbed_follow h
  have hbelow : (of text).below ≠ [] := below_follow_ne_nil (Text.Commas.splitAt_ne_nil _ _)
  rw [StaysBelow, hclimbed, passed_zero]
  exact ⟨List.nil_suffix, hbelow.symm⟩

end Route

/-- Reading goes where the route leads. -/
theorem closed_read {w : Walk} {r : Route} {place ss : List (List Char)}
    (h : w.closed = r.leadsTo place) :
    (w.read false ss).closed = (r.follow ss).leadsTo place := by
  -- The walk and the route take the same steps; `h` is what each of them keeps.
  induction ss generalizing w r with
  | nil => exact h
  | cons s ss ih =>
    have hatEnd : ∀ {w : Walk} {r : Route}, w.closed = r.leadsTo place →
        (if ss.isEmpty then w.close [] else w).closed =
          (if ss.isEmpty then r.down [] else r).leadsTo place := by
      intro w r h
      split
      · rw [Route.leadsTo_down, ← h]
        rfl
      · exact h
    rw [Walk.read, Route.follow]
    by_cases hdouble : isDoubleDot (encoded s) = true
    · rw [if_pos hdouble, if_pos hdouble]
      apply ih
      apply hatEnd
      rw [closed_up, h, Route.leadsTo_up]
    · rw [if_neg hdouble, if_neg hdouble]
      by_cases hsingle : isSingleDot (encoded s) = true
      · rw [if_pos hsingle, if_pos hsingle]
        exact ih (hatEnd h)
      · rw [if_neg hsingle, if_neg hsingle]
        apply ih
        rw [Route.leadsTo_down, ← h]
        rfl

/-- A route stays below a place exactly if the place that it leads to does. -/
theorem staysBelow_iff (r : Route) (place : List (List Char)) :
    r.StaysBelow place ↔ place <:+ r.leadsTo place ∧ place ≠ r.leadsTo place := by
  have hplace := passed_append_above r.climbed place
  have hsuffix : place <:+ r.leadsTo place ↔ passed r.climbed place <:+ r.below := by
    conv => lhs; lhs; rw [← hplace]
    rw [Route.leadsTo]
    constructor
    · rintro ⟨t, ht⟩
      rw [← List.append_assoc] at ht
      exact ⟨t, List.append_cancel_right ht⟩
    · rintro ⟨t, ht⟩
      exact ⟨t, by rw [← ht, List.append_assoc]⟩
  have heq : place = r.leadsTo place ↔ passed r.climbed place = r.below := by
    conv => lhs; lhs; rw [← hplace]
    rw [Route.leadsTo, List.append_cancel_right_eq]
  rw [Route.StaysBelow, hsuffix, Ne, Ne, heq]

end VaultPki.Url.Path
