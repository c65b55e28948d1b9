import Mathlib.Data.List.Basic
import VaultPki.Text.Commas

/-!
# Joining what was split

A text is cut into at least one part, and the parts of a text, with the separators put back between
them, are the text.
-/

namespace VaultPki.Text.Commas

variable {sep : Char}

theorem splitAt_ne_nil (sep : Char) (cs : List Char) : splitAt sep cs ≠ [] := by
  cases cs with
  | nil => exact List.cons_ne_nil _ _
  | cons c cs =>
    rw [splitAt]
    by_cases hc : c = sep
    · rw [if_pos hc]
      exact List.cons_ne_nil _ _
    · rw [if_neg hc]
      split <;> exact List.cons_ne_nil _ _

/-- A character begins a part of its own or stands in front of the first one. -/
theorem exists_splitAt_cons (sep c : Char) (cs : List Char) :
    ∃ head tail, splitAt sep cs = head :: tail ∧
      splitAt sep (c :: cs) = if c = sep then [] :: head :: tail else (c :: head) :: tail := by
  obtain ⟨head, tail, hsplit⟩ := List.exists_cons_of_ne_nil (splitAt_ne_nil sep cs)
  refine ⟨head, tail, hsplit, ?_⟩
  rw [splitAt, hsplit]

private theorem joinWith_cons_append (sep : List Char) (front head : List Char)
    (tail : List (List Char)) :
    joinWith sep ((front ++ head) :: tail) = front ++ joinWith sep (head :: tail) := by
  cases tail with
  | nil => rfl
  | cons next rest => simp only [joinWith, List.append_assoc]

theorem joinWith_splitAt (cs : List Char) : joinWith [sep] (splitAt sep cs) = cs := by
  induction cs with
  | nil => rfl
  | cons c cs ih =>
    obtain ⟨head, tail, hsplit, hcons⟩ := exists_splitAt_cons sep c cs
    rw [hsplit] at ih
    rw [hcons]
    by_cases hc : c = sep
    · rw [if_pos hc, joinWith, ih, hc]
      · rfl
      · exact List.cons_ne_nil _ _
    · rw [if_neg hc]
      exact (joinWith_cons_append [sep] [c] head tail).trans (congrArg (c :: ·) ih)

theorem join_split (s : String) : join (split s) = s := by
  have hparts : (split s).map String.toList = splitAt ',' s.toList := by
    rw [split, List.map_map]
    exact (List.map_congr_left fun _ _ => String.toList_ofList).trans (List.map_id _)
  rw [join, hparts, joinWith_splitAt, String.ofList_toList]

/-- Texts that are cut into the same parts are the same. -/
theorem split_injective : Function.Injective split :=
  Function.LeftInverse.injective join_split

theorem joinWith_eq_intercalate (sep : List Char) (parts : List (List Char)) :
    joinWith sep parts = sep.intercalate parts := by
  induction parts with
  | nil => rfl
  | cons part parts ih =>
    cases parts with
    | nil => exact (List.intercalate_singleton ..).symm
    | cons next rest =>
      rw [joinWith, ih, List.intercalate_cons_cons]
      exact List.cons_ne_nil _ _

theorem join_eq_intercalate (parts : List String) : join parts = ",".intercalate parts := by
  rw [← String.toList_inj, String.toList_intercalate, join, String.toList_ofList,
    joinWith_eq_intercalate]
  rfl

/-! ## Parts -/

theorem sep_not_mem_of_mem_splitAt {cs part : List Char} (h : part ∈ splitAt sep cs) :
    sep ∉ part := by
  induction cs generalizing part with
  | nil =>
    rw [List.mem_singleton.1 h]
    exact List.not_mem_nil
  | cons c cs ih =>
    obtain ⟨head, tail, hsplit, hcons⟩ := exists_splitAt_cons sep c cs
    rw [hcons] at h
    rw [hsplit] at ih
    by_cases hc : c = sep
    · rw [if_pos hc] at h
      rcases List.mem_cons.1 h with rfl | h
      · exact List.not_mem_nil
      · exact ih h
    · rw [if_neg hc] at h
      rcases List.mem_cons.1 h with rfl | h
      · rw [List.mem_cons, not_or]
        exact ⟨Ne.symm hc, ih List.mem_cons_self⟩
      · exact ih (List.mem_cons_of_mem head h)

theorem mem_of_mem_splitAt {cs part : List Char} {c : Char} (h : part ∈ splitAt sep cs)
    (hc : c ∈ part) : c ∈ cs := by
  induction cs generalizing part with
  | nil =>
    rw [List.mem_singleton.1 h] at hc
    exact absurd hc List.not_mem_nil
  | cons x cs ih =>
    obtain ⟨head, tail, hsplit, hcons⟩ := exists_splitAt_cons sep x cs
    rw [hcons] at h
    rw [hsplit] at ih
    rw [List.mem_cons]
    by_cases hx : x = sep
    · rw [if_pos hx] at h
      rcases List.mem_cons.1 h with rfl | h
      · exact absurd hc List.not_mem_nil
      · exact .inr (ih h hc)
    · rw [if_neg hx] at h
      rcases List.mem_cons.1 h with rfl | h
      · rcases List.mem_cons.1 hc with rfl | hc
        · exact .inl rfl
        · exact .inr (ih List.mem_cons_self hc)
      · exact .inr (ih (List.mem_cons_of_mem head h) hc)

/-- Every separator makes one more part. -/
theorem length_splitAt (cs : List Char) : (splitAt sep cs).length = cs.count sep + 1 := by
  induction cs with
  | nil => rfl
  | cons c cs ih =>
    obtain ⟨head, tail, hsplit, hcons⟩ := exists_splitAt_cons sep c cs
    rw [hsplit] at ih
    rw [hcons]
    by_cases hc : c = sep
    · rw [if_pos hc, hc, List.count_cons_self, List.length_cons, ih]
    · rw [if_neg hc, List.count_cons_of_ne hc, ← ih]
      rfl

theorem length_split (s : String) : (split s).length = s.toList.count ',' + 1 := by
  rw [split, List.length_map, length_splitAt]

/-- A text is cut at a separator into what the two sides are cut into. -/
theorem splitAt_append_cons (front cs : List Char) :
    splitAt sep (front ++ sep :: cs) = splitAt sep front ++ splitAt sep cs := by
  induction front with
  | nil =>
    show splitAt sep (sep :: cs) = [] :: splitAt sep cs
    rw [splitAt, if_pos rfl]
  | cons c front ih =>
    obtain ⟨head, tail, hfront, hcons⟩ := exists_splitAt_cons sep c front
    rw [List.cons_append, splitAt, ih, hcons, hfront]
    split <;> rfl

theorem splitAt_append {part : List Char} (h : sep ∉ part) (cs : List Char) :
    splitAt sep (part ++ sep :: cs) = part :: splitAt sep cs := by
  induction part with
  | nil => rw [List.nil_append, splitAt, if_pos rfl]
  | cons c part ih =>
    rw [List.mem_cons, not_or] at h
    rw [List.cons_append, splitAt, ih h.2, if_neg (Ne.symm h.1)]

theorem splitAt_of_not_mem {cs : List Char} (h : sep ∉ cs) : splitAt sep cs = [cs] := by
  induction cs with
  | nil => rfl
  | cons c cs ih =>
    rw [List.mem_cons, not_or] at h
    rw [splitAt, if_neg (Ne.symm h.1), ih h.2]

/-! ## Splitting what was joined -/

theorem splitAt_joinWith {parts : List (List Char)} (h : parts ≠ []) :
    splitAt sep (joinWith [sep] parts) = parts.flatMap (splitAt sep) := by
  induction parts with
  | nil => exact absurd rfl h
  | cons part parts ih =>
    cases parts with
    | nil => exact (List.append_nil _).symm
    | cons next rest =>
      have hrest := ih (List.cons_ne_nil next rest)
      rw [joinWith, List.append_assoc, List.flatMap_cons, ← hrest]
      · exact splitAt_append_cons part _
      · exact List.cons_ne_nil _ _

/-- Joined texts are cut into all that each of them is cut into. -/
theorem split_join {parts : List String} (h : parts ≠ []) :
    split (join parts) = parts.flatMap split := by
  have hparts : parts.map String.toList ≠ [] := mt List.map_eq_nil_iff.1 h
  rw [split, join, String.toList_ofList, splitAt_joinWith hparts, List.flatMap_map,
    List.map_flatMap]
  rfl

/-- All that the elements of a list are cut into. Without elements it is one empty text, as the
empty text is what no elements are joined to. -/
def pieces : List String → List String
  | [] => [""]
  | first :: rest => (first :: rest).flatMap split

theorem split_join_eq_pieces (elements : List String) :
    split (join elements) = pieces elements := by
  cases elements with
  | nil => rfl
  | cons first rest => exact split_join (List.cons_ne_nil first rest)

/-- Two lists are joined to the same text exactly if their elements are cut into the same pieces. -/
theorem join_eq_join_iff {elements elements' : List String} :
    join elements = join elements' ↔ pieces elements = pieces elements' := by
  rw [← split_join_eq_pieces, ← split_join_eq_pieces, split_injective.eq_iff]

theorem comma_not_mem_of_mem_split {s part : String} (h : part ∈ split s) :
    ',' ∉ part.toList := by
  obtain ⟨cs, hcs, rfl⟩ := List.mem_map.1 h
  rw [String.toList_ofList]
  exact sep_not_mem_of_mem_splitAt hcs

theorem split_of_not_mem {s : String} (h : ',' ∉ s.toList) : split s = [s] := by
  rw [split, splitAt_of_not_mem h, List.map_singleton, String.ofList_toList]

/-- Texts come back from being joined exactly if there is one at least and none holds a comma. -/
theorem split_join_eq_self_iff {parts : List String} :
    split (join parts) = parts ↔ parts ≠ [] ∧ ∀ part ∈ parts, ',' ∉ part.toList := by
  by_cases hparts : parts = []
  · subst hparts
    exact iff_of_false nofun fun h => h.1 rfl
  · rw [split_join hparts]
    refine ⟨fun h => ⟨hparts, fun part hpart => ?_⟩, fun ⟨_, h⟩ => ?_⟩
    · rw [← h] at hpart
      obtain ⟨s, -, hs⟩ := List.mem_flatMap.1 hpart
      exact comma_not_mem_of_mem_split hs
    · rw [List.flatMap_congr fun part hpart => split_of_not_mem (h part hpart)]
      exact List.flatMap_singleton' parts

end VaultPki.Text.Commas
