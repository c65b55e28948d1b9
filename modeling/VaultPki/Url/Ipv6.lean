import VaultPki.Text.Ascii
import VaultPki.Text.Commas
import VaultPki.Url.Ipv4

/-!
# Addresses of version 6

Eight pieces of 16 bits in hexadecimal with colons between them. Two colons stand for one or more
zero pieces, once, and the last two pieces may be written as an address of version 4.
-/

namespace VaultPki.Url.Ipv6

def byte? (cs : List Char) : Option Nat :=
  match Text.Ascii.decimal? cs with
  | none => none
  | some n => if n < 256 && (cs.length == 1 || cs.head? != some '0') then some n else none

/-- The two pieces that an address of version 4 makes. -/
def quad? (cs : List Char) : Option (List Nat) :=
  match (Text.Commas.splitAt '.' cs).mapM byte? with
  | some [a, b, c, d] => some [256 * a + b, 256 * c + d]
  | _ => none

/-- The eight pieces, when `gap` tells behind how many of them the left-out zeros stand. -/
def fill? (pieces : List Nat) (gap : Option Nat) : Option (List Nat) :=
  match gap with
  | some g =>
    if pieces.length ≤ 8 then
      some (pieces.take g ++ List.replicate (8 - pieces.length) 0 ++ pieces.drop g)
    else none
  | none => if pieces.length = 8 then some pieces else none

def isHex (c : Char) : Bool :=
  (Text.Ascii.hexDigitValue? c).isSome

def pieces? (pieces : List Nat) (gap : Option Nat) (cs : List Char) : Option (List Nat) :=
  match cs with
  | [] => fill? pieces gap
  | c :: rest =>
    if pieces.length = 8 then none
    else if c == ':' then
      if gap.isSome then none else pieces? (pieces ++ [0]) (some (pieces.length + 1)) rest
    else
      let digits := (c :: rest.take 3).takeWhile isHex
      let value := (Ipv4.digits? 16 digits).getD 0
      match _h : (c :: rest).drop digits.length with
      | [] => fill? (pieces ++ [value]) gap
      | d :: behind =>
        if d == '.' then
          if digits.isEmpty || 6 < pieces.length then none
          else
            match quad? (c :: rest) with
            | none => none
            | some quad => fill? (pieces ++ quad) gap
        else if d == ':' && !behind.isEmpty then pieces? (pieces ++ [value]) gap behind
        else none
termination_by cs.length
decreasing_by
  · simp
  · have hlen := congrArg List.length _h
    simp only [List.length_drop, List.length_cons] at hlen
    simp only [List.length_cons]
    omega

def ofText? : List Char → Option (List Nat)
  | [] => none
  | [_] => none
  | ':' :: ':' :: rest => pieces? [0] (some 1) rest
  | ':' :: _ => none
  | cs => pieces? [] none cs

def zeros (pieces : List Nat) : Nat :=
  (pieces.takeWhile (· == 0)).length

/-- The first of the longest runs of zeros, as its place and its length. -/
def longestRun (pieces : List Nat) : Nat × Nat :=
  (List.range pieces.length).foldl
    (fun best i =>
      let n := zeros (pieces.drop i)
      if best.2 < n then (i, n) else best)
    (0, 0)

def hexText (pieces : List Nat) : List Char :=
  Text.Commas.joinWith [':'] (pieces.map (Nat.toDigits 16))

/-- An address as text. The first of the longest runs of at least two zeros is left out. -/
def toText (pieces : List Nat) : String :=
  match longestRun pieces with
  | (start, n) =>
    String.ofList
      (if n < 2 then hexText pieces
       else hexText (pieces.take start) ++ [':', ':'] ++ hexText (pieces.drop (start + n)))

/-- An address as text, with the last two pieces as an address of version 4 if it stands for one. -/
def mappedText (pieces : List Nat) : String :=
  match pieces with
  | [0, 0, 0, 0, 0, 0xFFFF, a, b] => "::ffff:" ++ Ipv4.toText (UInt32.ofNat (65536 * a + b))
  | _ => toText pieces

end VaultPki.Url.Ipv6
