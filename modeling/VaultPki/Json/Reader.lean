import VaultPki.Json.Document
import VaultPki.Json.Magnitude
import VaultPki.Text.Ascii
import VaultPki.Text.Utf8

/-!
# Reading bytes as JSON

The grammar of JSON over bytes. Blanks are the space, tab, line feed and carriage return. A number
is an integer if it is written without fraction and exponent, is not `-0`, and lies between the
least signed and the greatest unsigned number of 64 bits.
-/

namespace VaultPki.Json.Reader

def isBlank (b : UInt8) : Bool :=
  b == 32 || b == 9 || b == 10 || b == 13

def skipBlanks (s : List UInt8) : List UInt8 :=
  s.dropWhile isBlank

def isDigit (b : UInt8) : Bool :=
  48 ≤ b && b ≤ 57

def digitValue (b : UInt8) : Nat :=
  b.toNat - 48

def digitsValue (ds : List UInt8) : Nat :=
  ds.foldl (fun n d => 10 * n + digitValue d) 0

/-! ## Strings -/

def isShortEscape (b : UInt8) : Bool :=
  b == 34 || b == 92 || b == 47 || b == 98 || b == 102 || b == 110 || b == 114 || b == 116

/-- The character that a backslash and a letter stand for. -/
def shortEscape (b : UInt8) : UInt8 :=
  if b == 98 then 8
  else if b == 102 then 12
  else if b == 110 then 10
  else if b == 114 then 13
  else if b == 116 then 9
  else b

/-- Four hexadecimal digits. -/
def fourHex : List UInt8 → Except Defect Nat
  | a :: b :: c :: d :: _ =>
    match Text.Ascii.hexValue? a, Text.Ascii.hexValue? b, Text.Ascii.hexValue? c,
        Text.Ascii.hexValue? d with
    | some a, some b, some c, some d => .ok (((a * 16 + b) * 16 + c) * 16 + d)
    | _, _, _, _ => .error .malformed
  | _ => .error .truncated

/-- How many bytes behind a backslash belong to the escape, whatever it stands for. -/
def skimEscape : List UInt8 → Except Defect Nat
  | [] => .error .truncated
  | e :: s =>
    if isShortEscape e then .ok 1
    else if e == 117 then (fourHex s).map fun _ => 5
    else .error .malformed

/-- The bytes behind a string whose opening quote has been read. -/
def skimString : List UInt8 → Except Defect (List UInt8)
  | [] => .error .truncated
  | b :: s =>
    if b == 34 then .ok s
    else if b == 92 then
      match skimEscape s with
      | .error d => .error d
      | .ok n => skimString (s.drop n)
    else if b < 32 then .error .malformed
    else skimString s
termination_by s => s.length
decreasing_by all_goals simp only [List.length_drop, List.length_cons]; omega

/-- The second half of a character that takes two escapes; `high` is the value of the first. -/
def readLowHalf (high : Nat) : List UInt8 → Except Defect (List UInt8)
  | [] => .error .truncated
  | b :: s =>
    if b == 92 then
      match s with
      | [] => .error .truncated
      | u :: s' =>
        if u == 117 then
          match fourHex s' with
          | .error d => .error d
          | .ok low =>
            if 0xDC00 ≤ low && low ≤ 0xDFFF then
              .ok (String.utf8EncodeChar
                (Char.ofNat (0x10000 + (high - 0xD800) * 1024 + (low - 0xDC00))))
            else .error .malformed
        else .error .malformed
    else .error .malformed

/-- The bytes that the escape behind a backslash stands for, and how many bytes it takes. -/
def readEscape : List UInt8 → Except Defect (List UInt8 × Nat)
  | [] => .error .truncated
  | e :: s =>
    if isShortEscape e then .ok ([shortEscape e], 1)
    else if e == 117 then
      match fourHex s with
      | .error d => .error d
      | .ok n =>
        if 0xDC00 ≤ n && n ≤ 0xDFFF then .error .malformed
        else if 0xD800 ≤ n && n ≤ 0xDBFF then
          (readLowHalf n (s.drop 4)).map fun bytes => (bytes, 11)
        else .ok (String.utf8EncodeChar (Char.ofNat n), 5)
    else .error .malformed

/-- The bytes that a string stands for, whose opening quote has been read. -/
def readString : List UInt8 → Except Defect (List UInt8)
  | [] => .error .truncated
  | b :: s =>
    if b == 34 then .ok []
    else if b == 92 then
      match readEscape s with
      | .error d => .error d
      | .ok (bytes, n) => (readString (s.drop n)).map (bytes ++ ·)
    else if b < 32 then .error .malformed
    else (readString s).map (b :: ·)
termination_by s => s.length
decreasing_by all_goals simp only [List.length_drop, List.length_cons]; omega

def stringContent (s : List UInt8) : Except Defect String :=
  match readString s with
  | .error d => .error d
  | .ok bytes =>
    match Text.Utf8.text? bytes with
    | none => .error .malformed
    | some content => .ok content

/-- A string whose opening quote has been read: what it says and the bytes behind it. -/
def string (s : List UInt8) : Except Break (Except Defect String × List UInt8) :=
  match skimString s with
  | .ok rest => .ok (stringContent s, rest)
  | .error d =>
    match stringContent s with
    | .error d' => .error ⟨d, d'⟩
    | .ok _ => .error ⟨d, d⟩

/-! ## Numbers -/

/-- A number as it is written. -/
structure Numeral where
  negative : Bool
  whole : List UInt8
  fraction : Option (List UInt8)
  exponent : Option (Bool × List UInt8)

namespace Numeral

def power (n : Numeral) : Int :=
  match n.exponent with
  | none => 0
  | some (true, ds) => -(digitsValue ds : Int)
  | some (false, ds) => digitsValue ds

def isFinite (n : Numeral) : Bool :=
  let (whole, dropped) := Magnitude.readWhole 0 (n.whole.map digitValue)
  let (digits, taken) := Magnitude.readFraction whole ((n.fraction.getD []).map digitValue)
  Magnitude.isFinite digits (n.power + dropped - taken)

/-- The integer, if the numeral denotes one that 64 bits can hold. -/
def integer? (n : Numeral) : Option Int :=
  if n.fraction.isNone && n.exponent.isNone then
    let m := digitsValue n.whole
    if n.negative then
      if 0 < m && Int64.minValue.toInt ≤ -(m : Int) then some (-(m : Int)) else none
    else if m < UInt64.size then some m else none
  else none

end Numeral

def exponentPart : List UInt8 → Except Break (Option (Bool × List UInt8) × List UInt8)
  | [] => .ok (none, [])
  | e :: s =>
    if e == 101 || e == 69 then
      let (negative, s) :=
        match s with
        | [] => (false, [])
        | b :: s' => if b == 45 then (true, s') else if b == 43 then (false, s') else (false, s)
      match s.takeWhile isDigit with
      | [] => .error ⟨.malformed, if s.isEmpty then .truncated else .malformed⟩
      | ds => .ok (some (negative, ds), s.dropWhile isDigit)
    else .ok (none, e :: s)

/-- The digits behind the point of a number, if one is written. -/
def fractionPart : List UInt8 → Except Break (Option (List UInt8) × List UInt8)
  | [] => .ok (none, [])
  | p :: s =>
    if p == 46 then
      match s.takeWhile isDigit with
      | [] => .error ⟨.malformed, if s.isEmpty then .truncated else .malformed⟩
      | ds => .ok (some ds, s.dropWhile isDigit)
    else .ok (none, p :: s)

/-- The digits in front of the point. A zero stands alone. -/
def wholePart : List UInt8 → Except Break (List UInt8 × List UInt8)
  | [] => .error ⟨.malformed, .truncated⟩
  | d :: s =>
    if d == 48 then
      match s with
      | [] => .ok ([d], [])
      | c :: _ => if isDigit c then .error (.both .malformed) else .ok ([d], s)
    else if isDigit d then .ok (d :: s.takeWhile isDigit, s.dropWhile isDigit)
    else .error (.both .malformed)

def numeral (s : List UInt8) : Except Break (Numeral × List UInt8) := do
  let (negative, s) :=
    match s with
    | [] => (false, [])
    | b :: s' => if b == 45 then (true, s') else (false, s)
  let (whole, s) ← wholePart s
  let (fraction, s) ← fractionPart s
  let (exponent, s) ← exponentPart s
  return (⟨negative, whole, fraction, exponent⟩, s)

def number (s : List UInt8) : Except Break (Document × List UInt8) :=
  match numeral s with
  | .error b => .error b
  | .ok (n, rest) =>
    match n.integer? with
    | some i => .ok (.integer i, rest)
    | none =>
      let literal := (s.take (s.length - rest.length)).map fun b => Char.ofNat b.toNat
      .ok (.real (String.ofList literal) n.isFinite, rest)

/-! ## Values -/

/-- Reads the letters of a name such as `null`. -/
def letters : List UInt8 → List UInt8 → Except Break (List UInt8)
  | [], s => .ok s
  | _ :: _, [] => .error (.both .truncated)
  | l :: ls, b :: s => if l == b then letters ls s else .error (.both .malformed)

/-- A value that is neither list nor object, whose first byte is `b`. -/
def scalar (b : UInt8) (s : List UInt8) : Except Break (Document × List UInt8) :=
  if b == 110 then (letters [117, 108, 108] s).map fun rest => (.null, rest)
  else if b == 116 then (letters [114, 117, 101] s).map fun rest => (.bool true, rest)
  else if b == 102 then (letters [97, 108, 115, 101] s).map fun rest => (.bool false, rest)
  else if b == 34 then (string s).map fun (content, rest) => (.text content, rest)
  else if b == 45 || isDigit b then number (b :: s)
  else .error (.both .malformed)

def colon (s : List UInt8) : Except Break (List UInt8) :=
  match skipBlanks s with
  | [] => .error (.both .truncated)
  | b :: s => if b == 58 then .ok s else .error (.both .malformed)

/-- What comes behind a value in a list or object that `close` ends. -/
inductive Next where
  | ended (rest : List UInt8)
  | another (rest : List UInt8)
  | stopped (b : Break)

def separator (close : UInt8) (s : List UInt8) : Next :=
  match skipBlanks s with
  | [] => .stopped (.both .truncated)
  | b :: s =>
    if b == close then .ended s
    else if b == 44 then .another s
    else .stopped (.both .malformed)

/-- Items, members and what comes behind them. -/
structure Run (α : Type) where
  entries : List α
  stop : Option Break
  rest : Option (List UInt8)

/-- Puts an entry in front. -/
def Run.cons {α : Type} (a : α) (r : Run α) : Run α :=
  { r with entries := a :: r.entries }

mutual

/-- A value and the bytes behind it, which are missing if reading stops inside the value. The
number `fuel` bounds the steps; twice the number of bytes is enough. -/
def value (fuel : Nat) (s : List UInt8) : Document × Option (List UInt8) :=
  match fuel with
  | 0 => (.broken (.both .malformed), none)
  | fuel + 1 =>
    match skipBlanks s with
    | [] => (.broken (.both .truncated), none)
    | b :: s =>
      if b == 91 then
        match skipBlanks s with
        | [] => (.list [] (some (.both .truncated)), none)
        | c :: s' =>
          if c == 93 then (.list [] none, some s')
          else
            let run := items fuel (c :: s')
            (.list run.entries run.stop, run.rest)
      else if b == 123 then
        match skipBlanks s with
        | [] => (.object [] (some (.both .truncated)), none)
        | c :: s' =>
          if c == 125 then (.object [] none, some s')
          else
            let run := members fuel (c :: s')
            (.object run.entries run.stop, run.rest)
      else
        match scalar b s with
        | .error stop => (.broken stop, none)
        | .ok (d, rest) => (d, some rest)

/-- The items of a list of which at least one more must come. -/
def items (fuel : Nat) (s : List UInt8) : Run Document :=
  match fuel with
  | 0 => ⟨[], some (.both .malformed), none⟩
  | fuel + 1 =>
    match value fuel s with
    | (d, none) => ⟨[d], some (.both .malformed), none⟩
    | (d, some rest) =>
      match separator 93 rest with
      | .ended rest => ⟨[d], none, some rest⟩
      | .stopped b => ⟨[d], some b, none⟩
      | .another rest => (items fuel rest).cons d

/-- The members of an object of which at least one more must come. -/
def members (fuel : Nat) (s : List UInt8) : Run (Except Defect String × Document) :=
  match fuel with
  | 0 => ⟨[], some (.both .malformed), none⟩
  | fuel + 1 =>
    match skipBlanks s with
    | [] => ⟨[], some (.both .truncated), none⟩
    | q :: s =>
      if q == 34 then
        match string s with
        | .error b => ⟨[], some b, none⟩
        | .ok (name, rest) =>
          match colon rest with
          | .error b => ⟨[(name, .broken b)], some b, none⟩
          | .ok rest =>
            match value fuel rest with
            | (d, none) => ⟨[(name, d)], some (.both .malformed), none⟩
            | (d, some rest) =>
              match separator 125 rest with
              | .ended rest => ⟨[(name, d)], none, some rest⟩
              | .stopped b => ⟨[(name, d)], some b, none⟩
              | .another rest => (members fuel rest).cons (name, d)
      else ⟨[], some (.both .malformed), none⟩

end

end VaultPki.Json.Reader

namespace VaultPki.Json

/-- A text that should hold one value: the document, and whether only blanks come behind it. -/
structure Text where
  document : Document
  complete : Bool

def Text.ofBytes (s : List UInt8) : Text :=
  match Reader.value (2 * s.length + 2) s with
  | (d, none) => ⟨d, true⟩
  | (d, some rest) => ⟨d, (Reader.skipBlanks rest).isEmpty⟩

end VaultPki.Json
