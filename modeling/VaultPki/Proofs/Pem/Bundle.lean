import VaultPki.Pem.Bundle
import VaultPki.Proofs.Base64
import VaultPki.Proofs.Pem.Section

/-!
# The certificates of a bundle

A bundle is a sequence of blocks, each on lines of its own: certificates, sections that hold
something else or nothing that can be read, and lines of text. Reading finds the certificates and is
not led astray by what stands around them.
-/

namespace VaultPki.Pem

/-! ## Blocks -/

/-- What a section is called. -/
structure Label where
  bytes : List UInt8
  isOnOneLine : IsOnOneLine bytes

namespace Label

def certificate : Label where
  bytes := Text.Utf8.encode "CERTIFICATE"
  isOnOneLine := by decide

def endMark (label : Label) : List UInt8 :=
  Pem.endMark ++ label.bytes ++ dashes

theorem isMark_endMark (label : Label) : IsMark label.endMark where
  ne_nil := List.cons_ne_nil _ _
  isOnOneLine := by
    have hmark : IsOnOneLine Pem.endMark := by decide
    exact (hmark.append label.isOnOneLine).append isOnOneLine_dashes

def beginLine (label : Label) (ending : LineEnd) : Line where
  content := beginMark ++ label.bytes ++ dashes
  ending
  isOnOneLine :=
    (isMark_beginMark.isOnOneLine.append label.isOnOneLine).append isOnOneLine_dashes

def endLine (label : Label) (ending : LineEnd) : Line where
  content := label.endMark
  ending
  isOnOneLine := label.isMark_endMark.isOnOneLine

/-- The lines of a section. -/
def frame (label : Label) (opening : LineEnd) (body : List Line) (closing : LineEnd) : List Line :=
  label.beginLine opening :: body ++ [label.endLine closing]

end Label

/-- Whether a line can stand in the body of a section. Another line would begin a section, or end
that one. -/
structure Line.IsInside (label : Label) (l : Line) : Prop where
  noBegin : ¬beginMark <+: l.content
  noEnd : ¬label.endMark <+: l.content

/-- What stands on lines of its own in a bundle. A section is damaged if its body stands for
nothing, and foreign if it is no certificate by its label. -/
inductive Block where
  | certificate (opening closing : LineEnd) (body : List Line) (content : List UInt8)
    (h : Base64.Denotes (body.flatMap Line.bytes) content)
  | damaged (opening closing : LineEnd) (body : List Line)
    (hinside : ∀ l ∈ body, l.IsInside .certificate)
    (h : ∀ content, ¬Base64.Denotes (body.flatMap Line.bytes) content)
  | foreign (label : Label) (hlabel : label.bytes ≠ Label.certificate.bytes)
    (opening closing : LineEnd) (body : List Line) (hinside : ∀ l ∈ body, l.IsInside label)
  | text (l : Line) (h : ¬beginMark <+: l.content)

namespace Block

def lines : Block → List Line
  | certificate opening closing body _ _ => Label.certificate.frame opening body closing
  | damaged opening closing body _ _ => Label.certificate.frame opening body closing
  | foreign label _ opening closing body _ => label.frame opening body closing
  | text l _ => [l]

def certificate? : Block → Option (List UInt8)
  | certificate _ _ _ content _ => some content
  | damaged .. | foreign .. | text .. => none

end Block

/-- The text that blocks make. -/
def textOf (blocks : List Block) : List UInt8 :=
  (blocks.flatMap Block.lines).flatMap Line.bytes

/-- The certificates among blocks. -/
def certificatesOf (blocks : List Block) : List (List UInt8) :=
  blocks.filterMap Block.certificate?

/-- Whether a text is that of blocks, of which the last line may have no end. -/
def IsTextOf (blocks : List Block) (text : List UInt8) : Prop :=
  text = textOf blocks ∨ ∃ ending : LineEnd, text ++ ending.bytes = textOf blocks

/-! ## Reading -/

def certificateOf : Option Section → Option (List UInt8)
  | some ⟨.certificate, content⟩ => some content
  | _ => none

/-- The certificates that are found in lines outside of a section. -/
def certificatesIn (ls : List (List UInt8)) : List (List UInt8) :=
  (readLines none ls).filterMap certificateOf

theorem certificates_eq (text : List UInt8) : certificates text = certificatesIn (Pem.lines text) :=
  rfl

theorem ofLabel?_eq_certificate_iff (label : List UInt8) :
    Kind.ofLabel? label = some .certificate ↔ label = Label.certificate.bytes := by
  constructor
  · intro h
    have hfound := List.find?_some h
    exact (beq_iff_eq.1 hfound).symm
  · rintro rfl
    decide

/-- What a body is read as, with what is left of the end of the line in front of it. -/
def inside (opening : LineEnd) (body : List Line) : List (List UInt8) :=
  opening.others.map (fun b => [b]) ++ body.flatMap Line.pieces

theorem flatten_inside (opening : LineEnd) (body : List Line) :
    (inside opening body).flatten = opening.others ++ body.flatMap Line.bytes := by
  have hothers : (opening.others.map fun b => [b]).flatten = opening.others := by
    cases opening <;> rfl
  rw [inside, List.flatten_append, hothers, List.append_cancel_left_eq]
  induction body with
  | nil => rfl
  | cons l body ih =>
    rw [List.flatMap_cons, List.flatten_append, l.flatten_pieces, ih, List.flatMap_cons]

theorem not_prefix_of_mem_inside {mark : List UInt8} (hmark : IsMark mark) {opening : LineEnd}
    {body : List Line} (h : ∀ l ∈ body, ¬mark <+: l.content) :
    ∀ p ∈ inside opening body, ¬mark <+: p := by
  intro p hp
  rcases List.mem_append.1 hp with hp | hp
  · obtain ⟨b, hb, rfl⟩ := List.mem_map.1 hp
    exact LineEnd.not_prefix_of_mem hmark (List.mem_cons_of_mem _ hb)
  · obtain ⟨l, hl, hp⟩ := List.mem_flatMap.1 hp
    exact Line.not_prefix_of_mem_pieces hmark (h l hl) hp

theorem decode?_inside (opening : LineEnd) (body : List Line) :
    Base64.decode? (inside opening body).flatten = Base64.decode? (body.flatMap Line.bytes) := by
  have hblank : (opening.others.filter fun b => !Base64.isBlank b) = [] := by
    cases opening <;> rfl
  apply Base64.decode?_congr
  rw [flatten_inside, List.filter_append, hblank, List.nil_append]

theorem not_beginMark_prefix_endMark (label : Label) : ¬beginMark <+: label.endMark := by
  rintro ⟨rest, h⟩
  have hbyte := congrArg (fun bs => bs[5]?) h
  cases hbyte

theorem filterMap_completed (label collected : List UInt8) :
    (completed label collected).filterMap certificateOf =
      if label = Label.certificate.bytes then (Base64.decode? collected).toList else [] := by
  rw [completed]
  cases hkind : Kind.ofLabel? label with
  | none =>
    have hother : label ≠ Label.certificate.bytes := by
      intro h
      rw [← ofLabel?_eq_certificate_iff, hkind] at h
      cases h
    rw [if_neg hother]
    rfl
  | some kind =>
    have hcertificate : label = Label.certificate.bytes ↔ kind = .certificate := by
      rw [← ofLabel?_eq_certificate_iff, hkind, Option.some.injEq]
    simp only [Option.toList_some, List.map_singleton, hcertificate]
    cases Base64.decode? collected <;> cases kind <;> rfl

section Frame

variable {label : Label} {body : List Line} (hbody : ∀ l ∈ body, l.IsInside label)
  (opening closing : LineEnd) (rest : List (List UInt8))

theorem pieces_frame :
    (label.frame opening body closing).flatMap Line.pieces ++ rest =
      (beginMark ++ label.bytes ++ dashes ++ [opening.first]) ::
        (inside opening body ++ ((label.endLine closing).pieces ++ rest)) := by
  simp [Label.frame, inside, Line.pieces, Label.beginLine]

theorem beginMark_prefix_append (more : List UInt8) :
    beginMark <+: beginMark ++ label.bytes ++ dashes ++ more := by
  rw [List.append_assoc, List.append_assoc]
  exact List.prefix_append _ _

theorem labelOf?_beginLine :
    labelOf? (beginMark ++ label.bytes ++ dashes ++ [opening.first]) =
      labelOf? (beginMark ++ label.bytes ++ dashes) :=
  labelOf?_append_lineEnd (LineEnd.isLineEnd_of_mem List.mem_cons_self) _

theorem not_beginMark_prefix_endLine :
    ∀ p ∈ (label.endLine closing).pieces, ¬beginMark <+: p := fun _ =>
  Line.not_prefix_of_mem_pieces isMark_beginMark (not_beginMark_prefix_endMark label)

include hbody

theorem not_beginMark_prefix_inside : ∀ p ∈ inside opening body, ¬beginMark <+: p :=
  not_prefix_of_mem_inside isMark_beginMark fun l hl => (hbody l hl).noBegin

/-- Where the first line begins no section the others are text. -/
theorem readLines_frame_of_none (h : labelOf? (beginMark ++ label.bytes ++ dashes) = none) :
    readLines none ((label.frame opening body closing).flatMap Line.pieces ++ rest) =
      none :: readLines none rest := by
  rw [pieces_frame,
    readLines_misbegin (beginMark_prefix_append _) ((labelOf?_beginLine opening).trans h),
    readLines_skip (not_beginMark_prefix_inside hbody opening),
    readLines_skip (not_beginMark_prefix_endLine closing)]

/-- Otherwise the section is read up to its last line. -/
theorem readLines_frame_of_some
    (h : labelOf? (beginMark ++ label.bytes ++ dashes) = some label.bytes) :
    readLines none ((label.frame opening body closing).flatMap Line.pieces ++ rest) =
      completed label.bytes (body.flatMap Line.bytes) ++ readLines none rest := by
  have hnoBegin : ∀ p ∈ (label.endLine closing).pieces, ¬beginMark <+: p :=
    not_beginMark_prefix_endLine closing
  have hnoEnd : ∀ p ∈ inside opening body, ¬label.endMark <+: p :=
    not_prefix_of_mem_inside label.isMark_endMark fun l hl => (hbody l hl).noEnd
  have hends : label.endMark <+: label.endMark ++ [closing.first] := List.prefix_append _ _
  have hskip : readLines none (closing.others.map (fun b => [b]) ++ rest) = readLines none rest :=
    readLines_skip (fun p hp => hnoBegin p (List.mem_cons_of_mem _ hp)) rest
  rw [pieces_frame,
    readLines_begin (beginMark_prefix_append _) ((labelOf?_beginLine opening).trans h),
    readLines_collect (not_beginMark_prefix_inside hbody opening) hnoEnd, List.nil_append,
    Line.pieces, List.cons_append, readLines_end (hnoBegin _ List.mem_cons_self) hends, completed,
    decode?_inside, ← completed, Label.endLine, hskip]

/-- Only a section that is called a certificate holds one, and what it holds is what its body stands
for. -/
theorem certificatesIn_frame :
    certificatesIn ((label.frame opening body closing).flatMap Line.pieces ++ rest) =
      (if label.bytes = Label.certificate.bytes then
        (Base64.decode? (body.flatMap Line.bytes)).toList
      else []) ++ certificatesIn rest := by
  rw [certificatesIn]
  rcases labelOf?_begin label.bytes with hnone | hsome
  · -- The mark of a certificate can be read, so this is none.
    have hother : label.bytes ≠ Label.certificate.bytes := by
      intro h
      rw [h] at hnone
      revert hnone
      decide
    rw [readLines_frame_of_none hbody opening closing rest hnone, if_neg hother]
    rfl
  · rw [readLines_frame_of_some hbody opening closing rest hsome, List.filterMap_append,
      filterMap_completed, certificatesIn]

end Frame

theorem certificatesIn_block (block : Block) (rest : List (List UInt8)) :
    certificatesIn (block.lines.flatMap Line.pieces ++ rest) =
      block.certificate?.toList ++ certificatesIn rest := by
  cases block with
  | certificate opening closing body content h =>
    -- Both marks begin with a dash, which does not stand in Base64.
    have hinside : ∀ l ∈ body, l.IsInside .certificate := by
      intro l hl
      have hdash : (45 : UInt8) ∉ l.content := fun hmem =>
        h.not_mem_dash (List.mem_flatMap.2 ⟨l, hl, List.mem_append_left _ hmem⟩)
      exact ⟨fun hprefix => hdash (List.IsPrefix.mem List.mem_cons_self hprefix),
        fun hprefix => hdash (List.IsPrefix.mem List.mem_cons_self hprefix)⟩
    rw [Block.lines, certificatesIn_frame hinside, if_pos rfl,
      Base64.decode?_eq_some_iff.2 h]
    rfl
  | damaged opening closing body hinside h =>
    have hnone : Base64.decode? (body.flatMap Line.bytes) = none :=
      Option.eq_none_iff_forall_ne_some.2 fun content => mt Base64.decode?_eq_some_iff.1 (h content)
    rw [Block.lines, certificatesIn_frame hinside, if_pos rfl, hnone]
    rfl
  | foreign label hlabel opening closing body hinside =>
    rw [Block.lines, certificatesIn_frame hinside, if_neg hlabel]
    rfl
  | text l h =>
    have htext : ∀ p ∈ l.pieces, ¬beginMark <+: p := fun p =>
      Line.not_prefix_of_mem_pieces isMark_beginMark h
    rw [Block.lines, List.flatMap_singleton, certificatesIn, readLines_skip htext]
    rfl

/-- Blocks in front of a text add their certificates to those of the text. -/
theorem certificates_textOf_append (blocks : List Block) (text : List UInt8) :
    certificates (textOf blocks ++ text) = certificatesOf blocks ++ certificates text := by
  rw [certificates_eq, textOf, lines_flatMap, List.flatMap_assoc]
  induction blocks with
  | nil => rfl
  | cons block blocks ih =>
    rw [List.flatMap_cons, List.append_assoc, certificatesIn_block, ih, certificatesOf,
      certificatesOf, List.filterMap_cons]
    cases block.certificate? <;> rfl

theorem certificates_of_isTextOf {blocks : List Block} {text : List UInt8}
    (h : IsTextOf blocks text) : certificates text = certificatesOf blocks := by
  have hblocks : certificates (textOf blocks) = certificatesOf blocks := by
    have happend := certificates_textOf_append blocks []
    rwa [List.append_nil, show certificates [] = [] from rfl, List.append_nil] at happend
  rcases h with rfl | ⟨ending, h⟩
  · exact hblocks
  · rw [← hblocks, ← h, certificates, certificates, sections_append_ending]

end VaultPki.Pem
