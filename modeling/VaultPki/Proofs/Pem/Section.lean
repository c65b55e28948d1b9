import Mathlib
import VaultPki.Pem.Section

/-!
# Reading lines of a PEM text

Lines are read one after the other: outside of a section what does not begin one is passed over, and
inside what does not end it is collected. Where a line ends in two bytes the second counts as an
empty line. Whether the last line of a text has an end makes no difference.
-/

namespace VaultPki.Pem

variable {bs rest : List UInt8} {b e : UInt8}

/-! ## Lines -/

def IsOnOneLine (bs : List UInt8) : Prop :=
  ∀ b ∈ bs, isLineEnd b = false

instance (bs : List UInt8) : Decidable (IsOnOneLine bs) :=
  decidable_of_iff (bs.all fun b => !isLineEnd b) (by simp [IsOnOneLine])

theorem IsOnOneLine.append {cs : List UInt8} (hbs : IsOnOneLine bs) (hcs : IsOnOneLine cs) :
    IsOnOneLine (bs ++ cs) :=
  List.forall_mem_append.2 ⟨hbs, hcs⟩

theorem isOnOneLine_dashes : IsOnOneLine dashes := by
  decide

/-- Whether bytes can be looked for at the front of a line. -/
structure IsMark (mark : List UInt8) : Prop where
  ne_nil : mark ≠ []
  isOnOneLine : IsOnOneLine mark

theorem isMark_beginMark : IsMark beginMark where
  ne_nil := by decide
  isOnOneLine := by decide

/-- The ways in which a line can end. -/
inductive LineEnd where
  | lf
  | cr
  | crlf

namespace LineEnd

/-- The byte up to which a line is read. -/
def first : LineEnd → UInt8
  | lf => 10
  | cr | crlf => 13

/-- What stands behind it, and is read as a line of its own. -/
def others : LineEnd → List UInt8
  | lf | cr => []
  | crlf => [10]

def bytes (e : LineEnd) : List UInt8 :=
  e.first :: e.others

theorem isLineEnd_of_mem {e : LineEnd} (h : b ∈ e.bytes) : isLineEnd b = true := by
  cases e with
  | lf | cr =>
    rw [List.mem_singleton.1 h]
    rfl
  | crlf =>
    rcases List.mem_pair.1 h with rfl | rfl <;> rfl

theorem not_prefix_of_mem {e : LineEnd} {mark : List UInt8} (hmark : IsMark mark)
    (h : b ∈ e.bytes) : ¬mark <+: [b] := by
  intro hprefix
  obtain ⟨c, mark', rfl⟩ := List.exists_cons_of_ne_nil hmark.ne_nil
  have hc := hmark.isOnOneLine c List.mem_cons_self
  rw [(List.cons_prefix_cons.1 hprefix).1, isLineEnd_of_mem h] at hc
  cases hc

end LineEnd

/-- A line with its end. -/
structure Line where
  content : List UInt8
  ending : LineEnd
  isOnOneLine : IsOnOneLine content

namespace Line

def bytes (l : Line) : List UInt8 :=
  l.content ++ l.ending.bytes

/-- What a line is read as. -/
def pieces (l : Line) : List (List UInt8) :=
  (l.content ++ [l.ending.first]) :: l.ending.others.map fun b => [b]

theorem flatten_pieces (l : Line) : l.pieces.flatten = l.bytes := by
  simp [pieces, bytes, LineEnd.bytes, ← List.flatMap_def]

end Line

theorem lines_cons_of_isLineEnd (h : isLineEnd b = true) (rest : List UInt8) :
    lines (b :: rest) = [b] :: lines rest := by
  rw [lines, if_pos h]

theorem lines_append (h : IsOnOneLine bs) (he : isLineEnd e = true) (rest : List UInt8) :
    lines (bs ++ e :: rest) = (bs ++ [e]) :: lines rest := by
  induction bs with
  | nil => exact lines_cons_of_isLineEnd he rest
  | cons b bs ih =>
    obtain ⟨hb, hbs⟩ := List.forall_mem_cons.1 h
    rw [List.cons_append, lines, if_neg (by simp [hb]), ih hbs]
    rfl

theorem Line.lines_bytes (l : Line) (rest : List UInt8) :
    lines (l.bytes ++ rest) = l.pieces ++ lines rest := by
  obtain ⟨content, ending, h⟩ := l
  have hfirst : isLineEnd ending.first = true :=
    LineEnd.isLineEnd_of_mem List.mem_cons_self
  rw [bytes, LineEnd.bytes, List.append_assoc, List.cons_append, lines_append h hfirst]
  cases ending with
  | lf | cr => rfl
  | crlf =>
    show _ :: lines (10 :: rest) = _
    rw [lines_cons_of_isLineEnd rfl]
    rfl

theorem lines_flatMap (ls : List Line) (rest : List UInt8) :
    lines (ls.flatMap Line.bytes ++ rest) = ls.flatMap Line.pieces ++ lines rest := by
  induction ls with
  | nil => rfl
  | cons l ls ih =>
    rw [List.flatMap_cons, List.flatMap_cons, List.append_assoc, l.lines_bytes, ih,
      List.append_assoc]

/-- What is no beginning of a line does not begin what the line is read as. -/
theorem Line.not_prefix_of_mem_pieces {l : Line} {mark piece : List UInt8} (hmark : IsMark mark)
    (h : ¬mark <+: l.content) (hpiece : piece ∈ l.pieces) : ¬mark <+: piece := by
  intro hprefix
  rcases List.mem_cons.1 hpiece with rfl | hother
  · rcases List.prefix_concat_iff.1 hprefix with hmark' | hcontent
    · have hmem : l.ending.first ∈ mark := hmark' ▸ List.mem_append_right _ List.mem_cons_self
      have hfirst := hmark.isOnOneLine l.ending.first hmem
      rw [LineEnd.isLineEnd_of_mem List.mem_cons_self] at hfirst
      cases hfirst
    · exact h hcontent
  · obtain ⟨b, hb, rfl⟩ := List.mem_map.1 hother
    exact LineEnd.not_prefix_of_mem hmark (List.mem_cons_of_mem _ hb) hprefix

/-! ## Steps -/

theorem readLines_skip {pieces : List (List UInt8)} (h : ∀ p ∈ pieces, ¬beginMark <+: p)
    (rest : List (List UInt8)) : readLines none (pieces ++ rest) = readLines none rest := by
  induction pieces with
  | nil => rfl
  | cons p pieces ih =>
    obtain ⟨hp, hpieces⟩ := List.forall_mem_cons.1 h
    rw [List.cons_append, readLines, if_neg (mt List.isPrefixOf_iff_prefix.1 hp), ih hpieces]

theorem readLines_collect {pieces : List (List UInt8)} {label : List UInt8}
    (hbegin : ∀ p ∈ pieces, ¬beginMark <+: p)
    (hend : ∀ p ∈ pieces, ¬endMark ++ label ++ dashes <+: p) (collected : List UInt8)
    (rest : List (List UInt8)) :
    readLines (some ⟨label, collected⟩) (pieces ++ rest) =
      readLines (some ⟨label, collected ++ pieces.flatten⟩) rest := by
  induction pieces generalizing collected with
  | nil => rw [List.flatten_nil, List.append_nil, List.nil_append]
  | cons p pieces ih =>
    obtain ⟨hp, hpieces⟩ := List.forall_mem_cons.1 hbegin
    obtain ⟨hp', hpieces'⟩ := List.forall_mem_cons.1 hend
    rw [List.cons_append, readLines, if_neg (mt List.isPrefixOf_iff_prefix.1 hp),
      if_neg (mt List.isPrefixOf_iff_prefix.1 hp'), ih hpieces hpieces', List.flatten_cons,
      List.append_assoc]

theorem readLines_begin {p label : List UInt8} (h : beginMark <+: p)
    (hlabel : labelOf? p = some label) (rest : List (List UInt8)) :
    readLines none (p :: rest) = readLines (some ⟨label, []⟩) rest := by
  simp only [readLines, List.isPrefixOf_iff_prefix.2 h, if_true, hlabel]

theorem readLines_misbegin {p : List UInt8} (h : beginMark <+: p) (hlabel : labelOf? p = none)
    (rest : List (List UInt8)) : readLines none (p :: rest) = none :: readLines none rest := by
  simp only [readLines, List.isPrefixOf_iff_prefix.2 h, if_true, hlabel]

/-- What a section with a label comes to: nothing if no kind has the label. -/
def completed (label collected : List UInt8) : List (Option Section) :=
  (Kind.ofLabel? label).toList.map fun kind => (Base64.decode? collected).map (Section.mk kind)

theorem readLines_end {p label : List UInt8} (hbegin : ¬beginMark <+: p)
    (hend : endMark ++ label ++ dashes <+: p) (collected : List UInt8)
    (rest : List (List UInt8)) :
    readLines (some ⟨label, collected⟩) (p :: rest) =
      completed label collected ++ readLines none rest := by
  rw [readLines, if_neg (mt List.isPrefixOf_iff_prefix.1 hbegin),
    if_pos (List.isPrefixOf_iff_prefix.2 hend), completed]
  cases Kind.ofLabel? label <;> rfl

/-! ## Labels -/

private def isClosing (b : UInt8) : Bool :=
  b == 45 || b == 32 || isLineEnd b

theorem closing_append {xs : List UInt8} (h : ∀ b ∈ xs, isClosing b = true) (line : List UInt8) :
    closing (line ++ xs) = closing line ++ xs := by
  have hreverse : ∀ b ∈ xs.reverse, isClosing b = true :=
    fun b hb => h b (List.mem_reverse.1 hb)
  show ((line ++ xs).reverse.takeWhile isClosing).reverse =
    (line.reverse.takeWhile isClosing).reverse ++ xs
  rw [List.reverse_append, List.takeWhile_append_of_pos hreverse, List.reverse_append,
    List.reverse_reverse]

theorem dashes_eq : dashes = List.replicate 5 45 := by
  decide

theorem closing_append_dashes (line : List UInt8) :
    closing (line ++ dashes) = closing line ++ dashes := by
  apply closing_append
  intro b hb
  rw [dashes_eq] at hb
  rw [List.eq_of_mem_replicate hb]
  rfl

/-- The label in a line is what stands between the marks, unless more dashes stand there. -/
theorem labelOf?_begin (label : List UInt8) :
    labelOf? (beginMark ++ label ++ dashes) = none ∨
      labelOf? (beginMark ++ label ++ dashes) = some label := by
  have hcount : dashes.count 45 = 5 := by rw [dashes_eq, List.count_replicate_self]
  have hdrop : dashes.dropWhile (· != 45) = dashes := by decide
  unfold labelOf?
  rw [closing_append_dashes]
  dsimp only
  rw [List.count_append, hcount]
  by_cases hnone : (closing (beginMark ++ label)).count 45 = 0
  · right
    have hblank : ∀ b ∈ closing (beginMark ++ label), (b != 45) = true := by
      intro b hb
      exact bne_iff_ne.2 fun h => List.count_eq_zero.1 hnone (h ▸ hb)
    rw [hnone, if_pos (by rfl), List.dropWhile_append_of_pos hblank, hdrop, List.length_append,
      Nat.add_sub_cancel, List.take_left, List.drop_left]
  · exact .inl (if_neg (by simpa using hnone))

theorem closing_append_lineEnd (he : isLineEnd e = true) (line : List UInt8) :
    closing (line ++ [e]) = closing line ++ [e] := by
  apply closing_append
  intro b hb
  rw [List.mem_singleton.1 hb, isClosing, he, Bool.or_true]

theorem labelOf?_append_lineEnd (he : isLineEnd e = true) (line : List UInt8) :
    labelOf? (line ++ [e]) = labelOf? line := by
  have hdash : e ≠ 45 := by
    rintro rfl
    cases he
  have hcount : [e].count 45 = 0 := List.count_eq_zero.2 (by simpa using hdash.symm)
  unfold labelOf?
  rw [closing_append_lineEnd he]
  dsimp only
  rw [List.count_append, hcount, Nat.add_zero]
  by_cases hfive : (closing line).count 45 = 5
  · -- The dashes stand in front of the end, so the label is cut off at the same place.
    have hmem : (45 : UInt8) ∈ closing line := List.count_pos_iff.1 (by omega)
    have hne : ((closing line).dropWhile (· != 45)).isEmpty = false := by
      rw [List.isEmpty_eq_false_iff, Ne, List.dropWhile_eq_nil_iff]
      exact fun h => absurd (h 45 hmem) (by decide)
    have hdrop : (closing line ++ [e]).dropWhile (· != 45) =
        (closing line).dropWhile (· != 45) ++ [e] := by
      rw [List.dropWhile_append, hne]
      rfl
    rw [hdrop, List.length_append, List.length_append, Nat.add_sub_add_right,
      List.take_append_of_le_length (Nat.sub_le _ _)]
  · have hfive' : ((closing line).count 45 == 5) = false := by simpa using hfive
    rw [hfive']
    rfl

/-! ## The end of the last line -/

theorem prefix_append_lineEnd {mark : List UInt8} (h : mark.getLast? ≠ some e)
    (line : List UInt8) : mark <+: line ++ [e] ↔ mark <+: line := by
  rw [List.prefix_concat_iff, or_iff_right]
  rintro rfl
  exact h List.getLast?_concat

/-- The end is a line of its own behind a line that has an end, and goes to the last line
otherwise. -/
theorem lines_append_lineEnd (he : isLineEnd e = true) (text : List UInt8) :
    lines (text ++ [e]) = lines text ++ [[e]] ∨
      ∃ front last, lines text = front ++ [last] ∧
        lines (text ++ [e]) = front ++ [last ++ [e]] := by
  induction text with
  | nil => exact .inl (lines_cons_of_isLineEnd he [])
  | cons b text ih =>
    rw [List.cons_append]
    cases hb : isLineEnd b with
    | true =>
      rw [lines_cons_of_isLineEnd hb, lines_cons_of_isLineEnd hb]
      rcases ih with h | ⟨front, last, h, h'⟩
      · exact .inl (by rw [h, List.cons_append])
      · exact .inr ⟨[b] :: front, last, by rw [h, List.cons_append], by rw [h', List.cons_append]⟩
    | false =>
      simp only [lines, hb, Bool.false_eq_true, if_false]
      rcases ih with h | ⟨front, last, h, h'⟩
      · rw [h]
        cases lines text with
        | nil => exact .inr ⟨[], [b], rfl, rfl⟩
        | cons line more => exact .inl rfl
      · rw [h, h']
        cases front with
        | nil => exact .inr ⟨[], b :: last, rfl, rfl⟩
        | cons line front => exact .inr ⟨(b :: line) :: front, last, rfl, rfl⟩

/-- Reading goes on alike if it goes on alike from every state behind a line. -/
theorem readLines_cons_congr {ls ls' : List (List UInt8)}
    (h : ∀ started, readLines started ls = readLines started ls') (started : Option Started)
    (line : List UInt8) : readLines started (line :: ls) = readLines started (line :: ls') := by
  cases started <;> simp only [readLines, h]

theorem readLines_append_congr {ls ls' : List (List UInt8)}
    (h : ∀ started, readLines started ls = readLines started ls') (started : Option Started)
    (front : List (List UInt8)) :
    readLines started (front ++ ls) = readLines started (front ++ ls') := by
  induction front generalizing started with
  | nil => exact h started
  | cons line front ih => exact readLines_cons_congr ih started line

theorem getLast?_beginMark (he : isLineEnd e = true) : beginMark.getLast? ≠ some e := by
  have hlast : beginMark.getLast? = some 32 := by decide
  rw [hlast]
  rintro ⟨⟩
  cases he

theorem getLast?_append_dashes (he : isLineEnd e = true) (front : List UInt8) :
    (front ++ dashes).getLast? ≠ some e := by
  have hlast : (front ++ dashes).getLast? = some 45 := by
    rw [dashes_eq, List.getLast?_append]
    rfl
  rw [hlast]
  rintro ⟨⟩
  cases he

theorem readLines_last_lineEnd (he : isLineEnd e = true) (line : List UInt8)
    (started : Option Started) : readLines started [line ++ [e]] = readLines started [line] := by
  have hbegin : beginMark.isPrefixOf (line ++ [e]) = beginMark.isPrefixOf line := by
    rw [Bool.eq_iff_iff, List.isPrefixOf_iff_prefix, List.isPrefixOf_iff_prefix,
      prefix_append_lineEnd (getLast?_beginMark he)]
  have hend (label : List UInt8) : (endMark ++ label ++ dashes).isPrefixOf (line ++ [e]) =
      (endMark ++ label ++ dashes).isPrefixOf line := by
    rw [Bool.eq_iff_iff, List.isPrefixOf_iff_prefix, List.isPrefixOf_iff_prefix,
      prefix_append_lineEnd (getLast?_append_dashes he _)]
  cases started <;> simp only [readLines, hbegin, hend, labelOf?_append_lineEnd he]

theorem readLines_lineEnd (he : isLineEnd e = true) (started : Option Started) :
    readLines started [[e]] = readLines started [] := by
  have hempty := readLines_last_lineEnd he [] started
  rw [List.nil_append] at hempty
  rw [hempty]
  cases started <;> rfl

/-- A line end at the end of a text makes no difference. -/
theorem sections_append_lineEnd (he : isLineEnd e = true) (text : List UInt8) :
    sections (text ++ [e]) = sections text := by
  rw [sections, sections]
  rcases lines_append_lineEnd he text with h | ⟨front, last, h, h'⟩
  · rw [h, readLines_append_congr (readLines_lineEnd he), List.append_nil]
  · rw [h, h', readLines_append_congr (readLines_last_lineEnd he last)]

theorem sections_append_ending (ending : LineEnd) (text : List UInt8) :
    sections (text ++ ending.bytes) = sections text := by
  cases ending with
  | lf | cr => exact sections_append_lineEnd rfl text
  | crlf =>
    have hsplit : text ++ LineEnd.crlf.bytes = text ++ [13] ++ [10] := by
      rw [List.append_assoc]
      rfl
    rw [hsplit, sections_append_lineEnd rfl, sections_append_lineEnd rfl]

end VaultPki.Pem
