import VaultPki.Proofs.Url.Route
import VaultPki.Proofs.Url.Slashed
import VaultPki.Url.Reader

/-!
# Addresses on the web

The path of an address that was read is settled. Another path, given as the text of settled segments
and a continuation, leads to where the route of the continuation goes from those segments.
-/

namespace VaultPki.Url

open VaultPki.Url.Path (IsSettled slashed)

theorem segments_web (w : Path.Walk) : w.segments false = w.closed.reverse.map String.ofList := by
  unfold Path.Walk.segments
  cases h : w.closed.reverse <;> rfl

theorem rootedPath_web {scheme : String} (h : scheme = "http" ∨ scheme = "https")
    (text : List Char) :
    rootedPath scheme text =
      .rooted ((Path.walk false true (Path.behindSlash true text)).closed.reverse.map
        String.ofList) := by
  rw [← segments_web]
  rcases h with rfl | rfl <;> rfl

theorem unifySlash_ne_backslash (c : Char) : Path.unifySlash true c ≠ '\\' := by
  by_cases hc : c = '\\'
  · rw [hc]
    decide
  · simp [Path.unifySlash, hc]

/-- Whatever is read as a path on the web, its segments are settled. -/
theorem isSettled_of_mem_walk (text : List Char) :
    ∀ s ∈ (Path.walk false true text).closed, IsSettled s := by
  refine Path.isSettled_of_mem_read (fun s hs => absurd hs List.not_mem_nil) fun s hs => ?_
  refine ⟨Text.Commas.sep_not_mem_of_mem_splitAt hs, fun hback => ?_⟩
  obtain ⟨c, -, hc⟩ := List.mem_map.1 (Text.Commas.mem_of_mem_splitAt hs hback)
  exact unifySlash_ne_backslash c hc

namespace Reader

variable {scheme : String} {cs : List Char} {u : Url}

theorem path_of_afterSlashes (h : afterSlashes scheme cs = .ok u) :
    ∃ text, u.path = rootedPath u.scheme text := by
  simp only [afterSlashes] at h
  split at h
  · cases h
  · cases h
    exact ⟨_, rfl⟩

theorem scheme_of_afterFile (h : afterFile cs = .ok u) : u.scheme = "file" := by
  simp only [afterFile] at h
  split at h
  · cases h
    rfl
  · split at h
    · cases h
      rfl
    · split at h
      · cases h
      · split at h <;> cases h <;> rfl

theorem scheme_of_afterSlashes (h : afterSlashes scheme cs = .ok u) : u.scheme = scheme := by
  simp only [afterSlashes] at h
  split at h
  · cases h
  · cases h
    rfl

theorem scheme_of_afterOther (h : afterOther scheme cs = .ok u) : u.scheme = scheme := by
  unfold afterOther at h
  split at h
  · exact scheme_of_afterSlashes h
  · cases h
    rfl
  · cases h
    rfl

end Reader

theorem path_of_ofText {text : String} {u : Url} (h : ofText text = .ok u)
    (hweb : u.scheme = "http" ∨ u.scheme = "https") : ∃ cs, u.path = rootedPath u.scheme cs := by
  rw [ofText] at h
  split at h
  · cases h
  · next scheme rest _ =>
    by_cases hnetwork : isNetwork scheme = true
    · rw [if_pos hnetwork] at h
      exact Reader.path_of_afterSlashes h
    · rw [if_neg hnetwork] at h
      split at h
      · rw [Reader.scheme_of_afterFile h] at hweb
        exact absurd hweb (by decide)
      · rw [Reader.scheme_of_afterOther h] at hweb
        exact absurd (by rcases hweb with rfl | rfl <;> rfl) hnetwork

/-- The path that is read from a text is never empty. -/
theorem exists_segments_rootedPath {scheme : String} (hweb : scheme = "http" ∨ scheme = "https")
    (text : List Char) :
    ∃ segments : List (List Char), segments ≠ [] ∧ (∀ s ∈ segments, IsSettled s) ∧
      rootedPath scheme text = .rooted (segments.map String.ofList) := by
  have hne : (Path.walk false true (Path.behindSlash true text)).closed ≠ [] := by
    have hstart : Path.Walk.start.closed = Path.Route.start.leadsTo [] := rfl
    rw [Path.walk, Path.closed_read hstart]
    exact List.append_ne_nil_of_left_ne_nil
      (Path.Route.below_follow_ne_nil (Text.Commas.splitAt_ne_nil _ _)) _
  refine ⟨(Path.walk false true (Path.behindSlash true text)).closed.reverse, ?_, ?_, ?_⟩
  · rwa [Ne, List.reverse_eq_nil_iff]
  · exact fun s hs => isSettled_of_mem_walk _ s (List.mem_reverse.1 hs)
  · exact rootedPath_web hweb text

theorem exists_segments_of_ofText {text : String} {u : Url} (h : ofText text = .ok u)
    (hweb : u.scheme = "http" ∨ u.scheme = "https") :
    ∃ segments : List (List Char), segments ≠ [] ∧ (∀ s ∈ segments, IsSettled s) ∧
      u.path = .rooted (segments.map String.ofList) := by
  obtain ⟨cs, hpath⟩ := path_of_ofText h hweb
  rw [hpath]
  exact exists_segments_rootedPath hweb cs

theorem exists_settled_of_ofText {text : String} {u : Url} (h : ofText text = .ok u)
    (hweb : u.scheme = "http" ∨ u.scheme = "https") :
    ∃ segments : List (List Char),
      u.path = .rooted (segments.map String.ofList) ∧ ∀ s ∈ segments, IsSettled s := by
  obtain ⟨segments, -, hsettled, hpath⟩ := exists_segments_of_ofText h hweb
  exact ⟨segments, hpath, hsettled⟩

/-! ## Continued paths -/

theorem map_unifySlash_of_settled {segments : List (List Char)}
    (h : ∀ s ∈ segments, IsSettled s) :
    (slashed segments).map (Path.unifySlash true) = slashed segments := by
  refine (List.map_congr_left fun c hc => ?_).trans (List.map_id _)
  have hback : c ≠ '\\' := by
    rintro rfl
    obtain ⟨s, hs, hmem⟩ := List.mem_flatMap.1 hc
    rcases List.mem_cons.1 hmem with hslash | hmem
    · cases hslash
    · exact (h s hs).noBackslash hmem
  simp [Path.unifySlash, hback]

theorem walk_slashed_append {segments : List (List Char)} (h : ∀ s ∈ segments, IsSettled s)
    (cs : List Char) :
    (Path.walk false true (slashed segments ++ '/' :: cs).tail).closed =
      (Path.Route.of cs).leadsTo segments.reverse := by
  have hmap : (slashed segments ++ '/' :: cs).tail.map (Path.unifySlash true) =
      (slashed segments ++ '/' :: cs.map (Path.unifySlash true)).tail := by
    rw [List.map_tail, List.map_append, map_unifySlash_of_settled h]
    rfl
  have hplace : segments.reverse ++ Path.Walk.start.closed =
      Path.Route.start.leadsTo segments.reverse := List.append_nil _
  rw [Path.walk, hmap, Path.splitAt_slashed_append fun s hs => (h s hs).noSlash,
    Path.read_settled_append h, Path.closed_read hplace]
  rfl

/-- The path of an address becomes where a continuation leads. -/
theorem path_withPath {u : Url} (hweb : u.scheme = "http" ∨ u.scheme = "https")
    {own : List String} (hpath : u.path = .rooted own) {segments : List (List Char)}
    (h : ∀ s ∈ segments, IsSettled s) (cs : List Char) :
    (u.withPath (slashed segments ++ '/' :: cs)).path =
      .rooted (((Path.Route.of cs).leadsTo segments.reverse).reverse.map String.ofList) := by
  obtain ⟨text, htext⟩ := Path.exists_slashed_append segments cs
  have hbehind : Path.behindSlash true (slashed segments ++ '/' :: cs) =
      (slashed segments ++ '/' :: cs).tail := by
    rw [htext]
    rfl
  rw [← walk_slashed_append h, ← hbehind, ← rootedPath_web hweb]
  unfold withPath
  rw [hpath]

theorem withPath_of_rooted {u : Url} {own : List String} (h : u.path = .rooted own)
    (text : List Char) : u.withPath text = { u with path := rootedPath u.scheme text } := by
  unfold withPath
  rw [h]

/-- The path that is read from a text is written in full. -/
theorem pathText_withPath {u : Url} (hweb : u.scheme = "http" ∨ u.scheme = "https")
    {own : List String} (hpath : u.path = .rooted own) (text : List Char) :
    ∃ segments : List (List Char), segments ≠ [] ∧ (∀ s ∈ segments, IsSettled s) ∧
      (u.withPath text).pathText.toList = slashed segments := by
  obtain ⟨segments, hne, hsettled, hrooted⟩ := exists_segments_rootedPath hweb text
  refine ⟨segments, hne, hsettled, ?_⟩
  rw [withPath_of_rooted hpath, pathText, hrooted, Path.toText_rooted, String.toList_ofList]

/-- A path of settled segments is read as these segments. -/
theorem rootedPath_slashed {scheme : String} (hweb : scheme = "http" ∨ scheme = "https")
    {segments : List (List Char)} (hne : segments ≠ []) (h : ∀ s ∈ segments, IsSettled s) :
    rootedPath scheme (slashed segments) = .rooted (segments.map String.ofList) := by
  obtain ⟨front, last, rfl⟩ := (List.eq_nil_or_concat' segments).resolve_left hne
  have htext : slashed (front ++ [last]) = slashed front ++ '/' :: last := by
    rw [Path.slashed_append]
    exact congrArg (slashed front ++ ·) (List.append_nil _)
  have hbehind : Path.behindSlash true (slashed (front ++ [last])) =
      (slashed front ++ '/' :: last).tail := by
    obtain ⟨text, hfront⟩ := Path.exists_slashed_append front last
    rw [htext, hfront]
    rfl
  have hslash : ∀ s ∈ front ++ [last], '/' ∉ s := fun s hs => (h s hs).noSlash
  rw [List.forall_mem_append, List.forall_mem_singleton] at hslash
  have hsplit : Text.Commas.splitAt '/' ((slashed front ++ '/' :: last).tail.map
      (Path.unifySlash true)) = front ++ [last] := by
    rw [List.map_tail, ← htext, map_unifySlash_of_settled h, htext,
      Path.splitAt_slashed_append hslash.1, Text.Commas.splitAt_of_not_mem hslash.2]
  have hread : (Path.Walk.start.read false (front ++ [last])).closed =
      (front ++ [last]).reverse := by
    have happend : Path.Walk.start.read false (front ++ [last] ++ []) = _ :=
      Path.read_settled_append h
    rw [List.append_nil] at happend
    rw [happend]
    exact List.append_nil _
  rw [rootedPath_web hweb, hbehind, Path.walk, hsplit, hread, List.reverse_reverse]

end VaultPki.Url
