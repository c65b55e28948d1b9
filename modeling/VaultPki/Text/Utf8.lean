/-!
# Bytes as UTF-8

Decoding of byte sequences, once strictly and once with a replacement character for each longest
part that begins a character and cannot be continued.
-/

namespace VaultPki.Text.Utf8

def encode (s : String) : List UInt8 :=
  s.toList.flatMap String.utf8EncodeChar

def isContinuation (b : UInt8) : Bool :=
  0x80 ≤ b && b ≤ 0xBF

/-- What stands at the front of a byte sequence: a character, or an ill-formed part. -/
inductive Front where
  | char (c : Char) (rest : List UInt8)
  | illFormed (rest : List UInt8)

def Front.rest : Front → List UInt8
  | .char _ rest => rest
  | .illFormed rest => rest

/-- Two bytes: the first gives five bits. -/
def frontOfTwo (b : UInt8) : List UInt8 → Front
  | [] => .illFormed []
  | c :: rest =>
    if isContinuation c then .char (Char.ofNat ((b.toNat - 0xC0) * 64 + (c.toNat - 0x80))) rest
    else .illFormed (c :: rest)

/-- Three bytes: the second must lie between `low` and `high`, which keeps out surrogates and
values that two bytes can hold. -/
def frontOfThree (b low high : UInt8) : List UInt8 → Front
  | [] => .illFormed []
  | c :: rest =>
    if low ≤ c && c ≤ high then
      match rest with
      | [] => .illFormed []
      | d :: rest' =>
        if isContinuation d then
          .char (Char.ofNat
            ((b.toNat - 0xE0) * 4096 + (c.toNat - 0x80) * 64 + (d.toNat - 0x80))) rest'
        else .illFormed (d :: rest')
    else .illFormed (c :: rest)

/-- Four bytes: the second must lie between `low` and `high`, which keeps out values that three
bytes can hold and those above the last code point. -/
def frontOfFour (b low high : UInt8) : List UInt8 → Front
  | [] => .illFormed []
  | c :: rest =>
    if low ≤ c && c ≤ high then
      match rest with
      | [] => .illFormed []
      | d :: rest' =>
        if isContinuation d then
          match rest' with
          | [] => .illFormed []
          | e :: rest'' =>
            if isContinuation e then
              .char (Char.ofNat ((b.toNat - 0xF0) * 262144 + (c.toNat - 0x80) * 4096 +
                (d.toNat - 0x80) * 64 + (e.toNat - 0x80))) rest''
            else .illFormed (e :: rest'')
        else .illFormed (d :: rest')
    else .illFormed (c :: rest)

/-- The front of a sequence that begins with the byte `b`. -/
def front (b : UInt8) (bs : List UInt8) : Front :=
  if b < 0x80 then .char (Char.ofNat b.toNat) bs
  else if b < 0xC2 then .illFormed bs
  else if b < 0xE0 then frontOfTwo b bs
  else if b == 0xE0 then frontOfThree b 0xA0 0xBF bs
  else if b == 0xED then frontOfThree b 0x80 0x9F bs
  else if b < 0xF0 then frontOfThree b 0x80 0xBF bs
  else if b == 0xF0 then frontOfFour b 0x90 0xBF bs
  else if b < 0xF4 then frontOfFour b 0x80 0xBF bs
  else if b == 0xF4 then frontOfFour b 0x80 0x8F bs
  else .illFormed bs

theorem length_rest_frontOfTwo (b : UInt8) (bs : List UInt8) :
    (frontOfTwo b bs).rest.length ≤ bs.length := by
  unfold frontOfTwo
  repeat' split
  all_goals simp [Front.rest]

theorem length_rest_frontOfThree (b low high : UInt8) (bs : List UInt8) :
    (frontOfThree b low high bs).rest.length ≤ bs.length := by
  unfold frontOfThree
  repeat' split
  all_goals simp [Front.rest]
  all_goals omega

theorem length_rest_frontOfFour (b low high : UInt8) (bs : List UInt8) :
    (frontOfFour b low high bs).rest.length ≤ bs.length := by
  unfold frontOfFour
  repeat' split
  all_goals simp [Front.rest]
  all_goals omega

theorem length_rest_front (b : UInt8) (bs : List UInt8) :
    (front b bs).rest.length ≤ bs.length := by
  unfold front
  repeat' split
  all_goals first
    | exact length_rest_frontOfTwo _ _
    | exact length_rest_frontOfThree _ _ _ _
    | exact length_rest_frontOfFour _ _ _ _
    | simp [Front.rest]

/-- The character that stands for an ill-formed part. -/
def replacement : Char := Char.ofNat 0xFFFD

/-- Decodes with a replacement character for each ill-formed part. -/
def decodeLossy : List UInt8 → List Char
  | [] => []
  | b :: bs =>
    match _h : front b bs with
    | .char c rest => c :: decodeLossy rest
    | .illFormed rest => replacement :: decodeLossy rest
termination_by bs => bs.length
decreasing_by
  all_goals
    have := length_rest_front b bs
    simp only [_h, Front.rest] at this
    simp only [List.length_cons]
    omega

/-- Decodes well-formed bytes. -/
def decode? : List UInt8 → Option (List Char)
  | [] => some []
  | b :: bs =>
    match _h : front b bs with
    | .char c rest => (decode? rest).map (c :: ·)
    | .illFormed _ => none
termination_by bs => bs.length
decreasing_by
  have := length_rest_front b bs
  simp only [_h, Front.rest] at this
  simp only [List.length_cons]
  omega

/-- The text of well-formed bytes. -/
def text? (bs : List UInt8) : Option String :=
  (decode? bs).map String.ofList

/-- The text of any bytes. -/
def text (bs : List UInt8) : String :=
  String.ofList (decodeLossy bs)

end VaultPki.Text.Utf8
