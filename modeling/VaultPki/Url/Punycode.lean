/-!
# Punycode

Writes a text with characters outside ASCII in letters and digits. The ASCII characters come first.
The others are inserted between them one by one, from the lowest code point to the highest and from
left to right, and each insertion is told by a count: how many places for it are passed since the
last one, when the places for every code point in between are passed as well. Counts are written in
base 36, the lowest digit first, with thresholds that tell the last digit and that follow the size of
the counts before.
-/

namespace VaultPki.Url.Punycode

/-! ## Digits -/

/-- A digit in base 36: the letters, then the decimal digits. -/
def digit (n : Nat) : Char :=
  if n < 26 then Char.ofNat (n + 97) else Char.ofNat (n + 22)

def digitValue? (c : Char) : Option Nat :=
  if 'a' ≤ c && c ≤ 'z' then some (c.toNat - 97)
  else if c.isDigit then some (c.toNat - 22)
  else none

/-- The threshold of the digit behind `k` others: only the last digit of a count is below it. -/
def threshold (bias k : Nat) : Nat :=
  min 26 (max 1 (36 * (k + 1) - bias))

/-- The bias that follows from a count that has been divided by 35 some times. -/
def settle (times count : Nat) : Nat :=
  if 455 < count then settle (times + 1) (count / 35)
  else 36 * times + 36 * count / (count + 38)
termination_by count
decreasing_by omega

/-- The bias behind a count, when `size` characters are in place. The first count is the largest by
far and weighs little. -/
def adapt (count size : Nat) (first : Bool) : Nat :=
  let damped := count / (if first then 700 else 2)
  settle 0 (damped + damped / size)

/-! ## Insertions -/

/-- A character that is inserted, and how many are in front of it then. -/
structure Insertion where
  code : Nat
  place : Nat

/-- How far the insertions have come: the last code point, the place behind the last insertion, how
many characters are in place, and the bias of the next count. -/
structure Progress where
  code : Nat
  place : Nat
  size : Nat
  bias : Nat

namespace Progress

/-- The beginning, with the ASCII characters in place. -/
def start (size : Nat) : Progress :=
  ⟨128, 0, size, 72⟩

/-- How many places are passed up to an insertion. -/
def count (p : Progress) (i : Insertion) : Nat :=
  (i.code - p.code) * (p.size + 1) + i.place - p.place

/-- The insertion that is told by a count, to which the place behind the last one has been added. -/
def insertion (p : Progress) (sum : Nat) : Insertion :=
  ⟨p.code + sum / (p.size + 1), sum % (p.size + 1)⟩

def next (p : Progress) (i : Insertion) : Progress :=
  ⟨i.code, i.place + 1, p.size + 1, adapt (p.count i) (p.size + 1) (p.place = 0)⟩

end Progress

/-! ## Writing -/

/-- The digits of a count behind `k` others. -/
def writeCount (bias k count : Nat) : List Char :=
  let t := threshold bias k
  if count < t then [digit count]
  else digit (t + (count - t) % (36 - t)) :: writeCount bias (k + 1) ((count - t) / (36 - t))
termination_by count
decreasing_by
  have positive : 0 < threshold bias k := by unfold threshold; omega
  exact Nat.lt_of_le_of_lt (Nat.div_le_self _ _) (by omega)

/-- Where a code point is inserted in a text behind `place` characters, if the lower ones are there
already. -/
def placesOf (code : Nat) (place : Nat) : List Char → List Nat
  | [] => []
  | c :: rest =>
    if c.toNat = code then place :: placesOf code (place + 1) rest
    else placesOf code (if c.toNat < code then place + 1 else place) rest

/-- The insertions that make a text out of its ASCII characters. -/
def insertions (text : List Char) : List Insertion :=
  let codes := (text.map Char.toNat).filter (128 ≤ ·)
  codes.mergeSort.eraseReps.flatMap fun code => (placesOf code 0 text).map (Insertion.mk code)

def writeInsertions (p : Progress) : List Insertion → List Char
  | [] => []
  | i :: rest => writeCount p.bias 0 (p.count i) ++ writeInsertions (p.next i) rest

/-- The Punycode of a text. A hyphen ends the ASCII characters, if there are any. -/
def encode (text : List Char) : List Char :=
  let plain := text.filter fun c => c.toNat < 128
  (if plain.isEmpty then [] else plain ++ ['-']) ++
    writeInsertions (.start plain.length) (insertions text)

/-! ## Reading -/

/-- Counts, their weights and their sums are kept below this bound. -/
def bound : Nat := UInt32.size

/-- Reads the digits of a count behind `k` others and adds them to `sum`; gives the new sum and the
digits behind the count. `none` if a digit is missing or a number reaches the bound. -/
def readCount (bias k weight sum : Nat) : List Char → Option (Nat × List Char)
  | [] => none
  | c :: rest =>
    match digitValue? c with
    | none => none
    | some d =>
      let t := threshold bias k
      let sum := sum + d * weight
      if bound ≤ sum then none
      else if d < t then some (sum, rest)
      else if bound ≤ weight * (36 - t) then none
      else readCount bias (k + 1) (weight * (36 - t)) sum rest

theorem length_rest_readCount {bias k weight sum n : Nat} {digits rest : List Char}
    (h : readCount bias k weight sum digits = some (n, rest)) : rest.length < digits.length := by
  induction digits generalizing k weight sum with
  | nil => simp [readCount] at h
  | cons c cs ih =>
    unfold readCount at h
    split at h
    · simp at h
    · dsimp only at h
      split at h
      · simp at h
      · split at h
        · simp_all
        · split at h
          · simp at h
          · exact Nat.lt_succ_of_lt (ih h)

def readInsertions (p : Progress) (text digits : List Char) : Option (List Char) :=
  if digits.isEmpty then some text
  else
    match _h : readCount p.bias 0 1 p.place digits with
    | none => none
    | some (sum, rest) =>
      let i := p.insertion sum
      if i.code.isValidChar then
        readInsertions (p.next i) (text.insertIdx i.place (Char.ofNat i.code)) rest
      else none
termination_by digits.length
decreasing_by exact length_rest_readCount (by assumption)

/-- The text whose Punycode is given. The last hyphen ends the ASCII characters, which must then be
there: a hyphen at the front is no digit. -/
def decode? (code : List Char) : Option (List Char) :=
  let back := code.reverse
  let digits := (back.takeWhile (· != '-')).reverse
  match back.dropWhile (· != '-') with
  | [] => readInsertions (.start 0) [] digits
  | [_] => none
  | _ :: plain => readInsertions (.start plain.length) plain.reverse digits

end VaultPki.Url.Punycode
