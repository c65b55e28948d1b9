import VaultPki.Client.Config
import VaultPki.Proofs.Url.Path

/-!
# Paths as text

A rooted path is written with a slash in front of each segment. As settled segments hold no slash,
the text tells them apart: it is cut into them again, and one path is written in front of another
exactly if its segments stand in front.
-/

namespace VaultPki.Url.Path

open Text.Commas (splitAt splitAt_append)

/-- Segments, each behind a slash. -/
def slashed (segments : List (List Char)) : List Char :=
  segments.flatMap fun s => '/' :: s

theorem slashed_cons (s : List Char) (segments : List (List Char)) :
    slashed (s :: segments) = '/' :: s ++ slashed segments := List.flatMap_cons

theorem slashed_append (front back : List (List Char)) :
    slashed (front ++ back) = slashed front ++ slashed back := List.flatMap_append

theorem toText_rooted (segments : List (List Char)) :
    Path.toText (.rooted (segments.map String.ofList)) = String.ofList (slashed segments) := by
  rw [toText, slashed, List.flatMap_map]
  simp only [String.toList_ofList]

/-! ## Cutting a path -/

theorem exists_slashed_append (segments : List (List Char)) (cs : List Char) :
    ∃ text, slashed segments ++ '/' :: cs = '/' :: text := by
  cases segments with
  | nil => exact ⟨cs, rfl⟩
  | cons s segments => exact ⟨s ++ slashed segments ++ '/' :: cs, by simp [slashed_cons]⟩

/-- A continued path is cut into its segments and what the continuation is cut into. -/
theorem splitAt_slashed_append {segments : List (List Char)} (h : ∀ s ∈ segments, '/' ∉ s)
    (cs : List Char) :
    splitAt '/' (slashed segments ++ '/' :: cs).tail = segments ++ splitAt '/' cs := by
  induction segments with
  | nil => rfl
  | cons s segments ih =>
    have ih := ih fun x hx => h x (List.mem_cons_of_mem s hx)
    obtain ⟨text, htext⟩ := exists_slashed_append segments cs
    rw [htext] at ih
    rw [slashed_cons, List.append_assoc, htext]
    show splitAt '/' (s ++ '/' :: text) = _
    rw [splitAt_append (h s List.mem_cons_self)]
    exact congrArg (s :: ·) ih

/-! ## Paths in front of others -/

/-- Two texts of which what comes behind a slash-free front begins with a slash. -/
private theorem append_slash_prefix_iff {s t front : List Char} {segments : List (List Char)}
    (hs : '/' ∉ s) (ht : '/' ∉ t) :
    s ++ '/' :: front <+: t ++ slashed segments ↔ s = t ∧ '/' :: front <+: slashed segments := by
  induction s generalizing t with
  | nil =>
    cases t with
    | nil => simp
    | cons c t =>
      have hc : '/' ≠ c := fun hc => ht (hc ▸ List.mem_cons_self)
      simp [List.cons_prefix_cons, hc]
  | cons c s ih =>
    rw [List.mem_cons, not_or] at hs
    cases t with
    | nil =>
      cases segments with
      | nil => simp [slashed]
      | cons x segments => simp [slashed_cons, List.cons_prefix_cons, Ne.symm hs.1]
    | cons d t =>
      rw [List.mem_cons, not_or] at ht
      rw [List.cons_append, List.cons_append, List.cons_prefix_cons, ih hs.2 ht.2, List.cons.injEq,
        and_assoc]

/-- A path with a slash behind it stands in front of another exactly if that goes further. -/
theorem slashed_slash_prefix_iff {front segments : List (List Char)}
    (hfront : ∀ s ∈ front, '/' ∉ s) (hsegments : ∀ s ∈ segments, '/' ∉ s) :
    slashed front ++ ['/'] <+: slashed segments ↔ front <+: segments ∧ front ≠ segments := by
  induction front generalizing segments with
  | nil =>
    cases segments with
    | nil => simp [slashed]
    | cons s segments => simp [slashed]
  | cons f front ih =>
    cases segments with
    | nil => simp [slashed]
    | cons s segments =>
      obtain ⟨text, htext⟩ := exists_slashed_append front []
      have ih : slashed front ++ ['/'] <+: slashed segments ↔
          front <+: segments ∧ front ≠ segments :=
        ih (fun x hx => hfront x (List.mem_cons_of_mem f hx))
          fun x hx => hsegments x (List.mem_cons_of_mem s hx)
      rw [htext] at ih
      rw [slashed_cons, slashed_cons, List.append_assoc, htext, List.cons_append, List.cons_append,
        List.cons_prefix_cons, append_slash_prefix_iff (hfront f List.mem_cons_self)
          (hsegments s List.mem_cons_self), ih, List.cons_prefix_cons, Ne, Ne, List.cons.injEq]
      grind

/-! ## Slashes at the end -/

/-- Segments without the empty ones at the end. -/
def trimmedEnd (segments : List (List Char)) : List (List Char) :=
  (segments.reverse.dropWhile List.isEmpty).reverse

theorem mem_of_mem_trimmedEnd {segments : List (List Char)} {s : List Char}
    (h : s ∈ trimmedEnd segments) : s ∈ segments := by
  have hdrop := List.mem_reverse.1 h
  exact List.mem_reverse.1 ((List.dropWhile_sublist _).mem hdrop)

private theorem dropWhile_slash_reverse_slashed {reversed : List (List Char)}
    (h : ∀ s ∈ reversed, '/' ∉ s) :
    ((slashed reversed.reverse).reverse.dropWhile (· == '/')).reverse =
      slashed (reversed.dropWhile List.isEmpty).reverse := by
  -- By induction from the end, where the slashes are taken off.
  induction reversed with
  | nil => rfl
  | cons s reversed ih =>
    have ih := ih fun x hx => h x (List.mem_cons_of_mem s hx)
    cases hs : s.reverse with
    | nil =>
      rw [List.reverse_eq_nil_iff] at hs
      subst hs
      rw [List.reverse_cons, slashed_append]
      simpa [slashed] using ih
    | cons c cs =>
      have hc : c ≠ '/' := by
        rintro rfl
        exact h s List.mem_cons_self (List.mem_reverse.1 (hs ▸ List.mem_cons_self))
      have hne : s.isEmpty = false := by
        rw [← List.isEmpty_reverse, hs]
        rfl
      obtain ⟨text, htext⟩ : ∃ text, (slashed (s :: reversed).reverse).reverse = c :: text := by
        refine ⟨cs ++ '/' :: (slashed reversed.reverse).reverse, ?_⟩
        simp [slashed, hs]
      rw [htext, List.dropWhile_cons_of_neg (by simpa using hc), ← htext, List.reverse_reverse,
        List.dropWhile_cons_of_neg (by simp [hne])]

/-- Taking the slashes off the end of a path leaves out the empty segments there. -/
theorem trimEndSlashes_slashed {segments : List (List Char)} (h : ∀ s ∈ segments, '/' ∉ s) :
    Config.trimEndSlashes (String.ofList (slashed segments)) = slashed (trimmedEnd segments) := by
  have hreversed : ∀ s ∈ segments.reverse, '/' ∉ s := fun s hs => h s (List.mem_reverse.1 hs)
  have htrim := dropWhile_slash_reverse_slashed hreversed
  rw [List.reverse_reverse] at htrim
  rw [Config.trimEndSlashes, String.toList_ofList, htrim, trimmedEnd]

end VaultPki.Url.Path
