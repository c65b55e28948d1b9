import VaultPki.Proofs.Url.Reader

/-!
# Plain texts as paths

A text without percent signs, backslashes, dropped characters and dot segments leads nowhere but
down. Behind whatever path, it is written as it is encoded, and two such texts are never written
alike.
-/

namespace VaultPki.Url.Path

open Percent (pathSet encode decode)
open Text.Commas (splitAt splitAt_ne_nil exists_splitAt_cons splitAt_append_cons)

/-- Whether nothing in a text means anything to the reading of paths but its slashes. -/
structure IsPlain (cs : List Char) : Prop where
  noPercent : '%' ∉ cs
  noBackslash : '\\' ∉ cs
  noTab : '\t' ∉ cs
  noLineFeed : '\n' ∉ cs
  noReturn : '\r' ∉ cs
  noDots : ∀ s ∈ splitAt '/' cs, s ≠ ['.'] ∧ s ≠ ['.', '.']

theorem isPlain_iff {cs : List Char} :
    IsPlain cs ↔ '%' ∉ cs ∧ '\\' ∉ cs ∧ '\t' ∉ cs ∧ '\n' ∉ cs ∧ '\r' ∉ cs ∧
      ∀ s ∈ splitAt '/' cs, s ≠ ['.'] ∧ s ≠ ['.', '.'] :=
  ⟨fun ⟨hpercent, hback, htab, hline, hreturn, hdots⟩ =>
      ⟨hpercent, hback, htab, hline, hreturn, hdots⟩,
    fun ⟨hpercent, hback, htab, hline, hreturn, hdots⟩ =>
      ⟨hpercent, hback, htab, hline, hreturn, hdots⟩⟩

instance (cs : List Char) : Decidable (IsPlain cs) :=
  decidable_of_iff' _ isPlain_iff

/-! ## Spellings of dots -/

theorem decode_of_afterDot? {cs rest : List Char} (h : afterDot? cs = some rest) :
    decode (cs.flatMap String.utf8EncodeChar) =
      46 :: decode (rest.flatMap String.utf8EncodeChar) := by
  unfold afterDot? at h
  split at h
  · cases h
    exact Percent.decode_cons_of_ne (by decide) _
  · next e rest' =>
    split at h
    · next he =>
      cases h
      simp only [Bool.or_eq_true, beq_iff_eq] at he
      have htwo : Text.Ascii.hexValue? 50 = some 2 := by decide
      rcases he with rfl | rfl
      · have he : Text.Ascii.hexValue? 101 = some 14 := by decide
        exact Percent.decode_code htwo he _
      · have he : Text.Ascii.hexValue? 69 = some 14 := by decide
        exact Percent.decode_code htwo he _
    · cases h
  · cases h

theorem decode_of_isSingleDot {cs : List Char} (h : isSingleDot cs = true) :
    decode (cs.flatMap String.utf8EncodeChar) = [46] := by
  rw [isSingleDot, beq_iff_eq] at h
  rw [decode_of_afterDot? h]
  rfl

theorem decode_of_isDoubleDot {cs : List Char} (h : isDoubleDot cs = true) :
    decode (cs.flatMap String.utf8EncodeChar) = [46, 46] := by
  rw [isDoubleDot] at h
  split at h
  · next rest hrest => rw [decode_of_afterDot? hrest, decode_of_isSingleDot h]
  · cases h

/-- Encoding makes no dot segment of a segment without percent signs that is none. -/
theorem not_dots_of_plain {s : List Char} (hpercent : '%' ∉ s) (hdot : s ≠ ['.'])
    (hdots : s ≠ ['.', '.']) :
    isDoubleDot (encode pathSet s) = false ∧ isSingleDot (encode pathSet s) = false := by
  have hdecode : decode ((encode pathSet s).flatMap String.utf8EncodeChar) =
      s.flatMap String.utf8EncodeChar := Percent.decode_encode hpercent
  constructor
  · rw [Bool.eq_false_iff]
    intro h
    rw [decode_of_isDoubleDot h] at hdecode
    apply hdots
    apply Percent.eq_of_flatMap_utf8EncodeChar_eq
    exact hdecode.symm
  · rw [Bool.eq_false_iff]
    intro h
    rw [decode_of_isSingleDot h] at hdecode
    apply hdot
    apply Percent.eq_of_flatMap_utf8EncodeChar_eq
    exact hdecode.symm

/-! ## Routes of plain texts -/

namespace IsPlain

variable {cs : List Char}

theorem noDropped (h : IsPlain cs) {c : Char} (hc : c ∈ cs) : isDropped c = false := by
  have htab : c ≠ '\t' := by
    rintro rfl
    exact h.noTab hc
  have hline : c ≠ '\n' := by
    rintro rfl
    exact h.noLineFeed hc
  have hreturn : c ≠ '\r' := by
    rintro rfl
    exact h.noReturn hc
  simp [isDropped, htab, hline, hreturn]

/-- Plain texts may be put behind one another with a slash between them. -/
theorem append_slash {front : List Char} (hfront : IsPlain front) (h : IsPlain cs) :
    IsPlain (front ++ '/' :: cs) := by
  have hnot {c : Char} (hc : c ≠ '/') (hc₁ : c ∉ front) (hc₂ : c ∉ cs) :
      c ∉ front ++ '/' :: cs := by
    rw [List.mem_append, List.mem_cons, not_or, not_or]
    exact ⟨hc₁, hc, hc₂⟩
  exact {
    noPercent := hnot (by decide) hfront.noPercent h.noPercent
    noBackslash := hnot (by decide) hfront.noBackslash h.noBackslash
    noTab := hnot (by decide) hfront.noTab h.noTab
    noLineFeed := hnot (by decide) hfront.noLineFeed h.noLineFeed
    noReturn := hnot (by decide) hfront.noReturn h.noReturn
    noDots := by
      intro s hs
      rw [splitAt_append_cons, List.mem_append] at hs
      exact hs.elim (hfront.noDots s) (h.noDots s) }

theorem encoded_eq (h : IsPlain cs) {s : List Char} (hs : s ∈ splitAt '/' cs) :
    encoded s = encode pathSet s := by
  rw [encoded, List.filter_eq_self.2]
  intro c hc
  rw [h.noDropped (Text.Commas.mem_of_mem_splitAt hs hc)]
  rfl

theorem not_dots (h : IsPlain cs) {s : List Char} (hs : s ∈ splitAt '/' cs) :
    isDoubleDot (encoded s) = false ∧ isSingleDot (encoded s) = false := by
  obtain ⟨hdot, hdots⟩ := h.noDots s hs
  have hpercent : '%' ∉ s := fun hc => h.noPercent (Text.Commas.mem_of_mem_splitAt hs hc)
  rw [h.encoded_eq hs]
  exact not_dots_of_plain hpercent hdot hdots

theorem map_unifySlash (h : IsPlain cs) : cs.map (unifySlash true) = cs := by
  refine (List.map_congr_left fun c hc => ?_).trans (List.map_id _)
  have hback : c ≠ '\\' := by
    rintro rfl
    exact h.noBackslash hc
  simp [unifySlash, hback]

end IsPlain

namespace Route

/-- Segments that are no dot segments are gone down one after the other. -/
theorem follow_of_no_dots {r : Route} {ss : List (List Char)}
    (h : ∀ s ∈ ss, isDoubleDot (encoded s) = false ∧ isSingleDot (encoded s) = false) :
    r.follow ss = ⟨r.climbed, (ss.map encoded).reverse ++ r.below⟩ := by
  induction ss generalizing r with
  | nil => rfl
  | cons s ss ih =>
    obtain ⟨hdouble, hsingle⟩ := h s List.mem_cons_self
    rw [follow, hdouble, hsingle, if_neg Bool.false_ne_true, if_neg Bool.false_ne_true,
      ih fun x hx => h x (List.mem_cons_of_mem s hx)]
    simp [down]

/-- Where segments lead does not depend on what comes behind them, if only something does. -/
theorem exists_follow_append (r : Route) (front : List (List Char)) :
    ∃ r' : Route, ∀ ss, ss ≠ [] → r.follow (front ++ ss) = r'.follow ss := by
  induction front generalizing r with
  | nil => exact ⟨r, fun _ _ => rfl⟩
  | cons s front ih =>
    have hatEnd : ∀ ss : List (List Char), ss ≠ [] → (front ++ ss).isEmpty = false := by
      intro ss hss
      cases front with
      | nil => simpa using hss
      | cons t front => rfl
    by_cases hdouble : isDoubleDot (encoded s) = true
    · obtain ⟨r', hr'⟩ := ih r.up
      refine ⟨r', fun ss hss => ?_⟩
      rw [List.cons_append, follow, if_pos hdouble, hatEnd ss hss]
      exact hr' ss hss
    · by_cases hsingle : isSingleDot (encoded s) = true
      · obtain ⟨r', hr'⟩ := ih r
        refine ⟨r', fun ss hss => ?_⟩
        rw [List.cons_append, follow, if_neg hdouble, if_pos hsingle, hatEnd ss hss]
        exact hr' ss hss
      · obtain ⟨r', hr'⟩ := ih (r.down (encoded s))
        refine ⟨r', fun ss hss => ?_⟩
        rw [List.cons_append, follow, if_neg hdouble, if_neg hsingle]
        exact hr' ss hss

theorem leadsTo_follow_plain {cs : List Char} (h : IsPlain cs) (r : Route)
    (place : List (List Char)) :
    (r.follow (splitAt '/' cs)).leadsTo place =
      ((splitAt '/' cs).map (encode pathSet)).reverse ++ r.leadsTo place := by
  rw [follow_of_no_dots fun s hs => h.not_dots hs, leadsTo, leadsTo, List.append_assoc,
    List.map_congr_left fun s hs => h.encoded_eq hs]

end Route

/-! ## Plain texts behind a path -/

/-- Slashes are not encoded. -/
theorem slashed_map_encode_splitAt (cs : List Char) :
    slashed ((splitAt '/' cs).map (encode pathSet)) = '/' :: encode pathSet cs := by
  induction cs with
  | nil => rfl
  | cons c cs ih =>
    obtain ⟨head, tail, hsplit, hcons⟩ := exists_splitAt_cons '/' c cs
    rw [hsplit, List.map_cons, slashed_cons] at ih
    rw [hcons]
    by_cases hc : c = '/'
    · subst hc
      rw [if_pos rfl, List.map_cons, List.map_cons, slashed_cons, slashed_cons, ih]
      rfl
    · rw [if_neg hc, List.map_cons, slashed_cons]
      have ih : encode pathSet head ++ slashed (tail.map (encode pathSet)) = encode pathSet cs :=
        (List.cons.inj ih).2
      show '/' :: (Percent.encodeChar pathSet c ++ encode pathSet head) ++ _ =
        '/' :: (Percent.encodeChar pathSet c ++ encode pathSet cs)
      rw [← ih, List.cons_append, List.append_assoc]

end Path

open VaultPki.Url.Path (IsPlain slashed)
open Percent (pathSet encode)

section

variable {u : Url} {own : List String} {segments : List (List Char)}

/-- Behind settled segments, a plain text is written as it is encoded. -/
theorem pathText_withPath_plain (hweb : u.scheme = "http" ∨ u.scheme = "https")
    (hpath : u.path = .rooted own) (h : ∀ s ∈ segments, Path.IsSettled s) {cs : List Char}
    (hplain : IsPlain cs) :
    (u.withPath (slashed segments ++ '/' :: cs)).pathText.toList =
      slashed segments ++ '/' :: encode pathSet cs := by
  have hroute : (Path.Route.of cs).leadsTo segments.reverse =
      ((Text.Commas.splitAt '/' cs).map (encode pathSet)).reverse ++ segments.reverse := by
    rw [Path.Route.of, hplain.map_unifySlash, Path.Route.leadsTo_follow_plain hplain]
    rfl
  rw [pathText, path_withPath hweb hpath h, Path.toText_rooted, String.toList_ofList, hroute,
    List.reverse_append, List.reverse_reverse, List.reverse_reverse, Path.slashed_append,
    Path.slashed_map_encode_splitAt]

/-- Behind settled segments and anything else, plain texts are written behind one and the same
path. -/
theorem exists_pathText_withPath (hweb : u.scheme = "http" ∨ u.scheme = "https")
    (hpath : u.path = .rooted own) (h : ∀ s ∈ segments, Path.IsSettled s) (front : List Char) :
    ∃ path : List Char, ∀ cs, IsPlain cs →
      (u.withPath (slashed segments ++ '/' :: (front ++ '/' :: cs))).pathText.toList =
        path ++ '/' :: encode pathSet cs := by
  obtain ⟨r, hr⟩ := Path.Route.start.exists_follow_append
    (Text.Commas.splitAt '/' (front.map (Path.unifySlash true)))
  refine ⟨slashed (r.leadsTo segments.reverse).reverse, fun cs hplain => ?_⟩
  have hroute : (Path.Route.of (front ++ '/' :: cs)).leadsTo segments.reverse =
      ((Text.Commas.splitAt '/' cs).map (encode pathSet)).reverse ++
        r.leadsTo segments.reverse := by
    have hunified : (front ++ '/' :: cs).map (Path.unifySlash true) =
        front.map (Path.unifySlash true) ++ '/' :: cs := by
      rw [List.map_append, List.map_cons, hplain.map_unifySlash]
      rfl
    rw [Path.Route.of, hunified, Text.Commas.splitAt_append_cons,
      hr _ (Text.Commas.splitAt_ne_nil _ _), Path.Route.leadsTo_follow_plain hplain]
  rw [pathText, path_withPath hweb hpath h, Path.toText_rooted, String.toList_ofList, hroute,
    List.reverse_append, List.reverse_reverse, Path.slashed_append,
    Path.slashed_map_encode_splitAt]

end

end VaultPki.Url
