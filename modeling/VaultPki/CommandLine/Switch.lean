import VaultPki.Text.Commas

/-!
# Switches

The words of a command line are switches, their values, and other words. A switch has a long name
behind two dashes and may have a letter behind one; letters can be put together. A value stands in
the same word, behind an equals sign or directly behind the letter, or in the next word unless that
looks like a switch. Behind the word `--` nothing is a switch.
-/

namespace VaultPki.CommandLine

/-- Why a command line is not carried out: it asks for a version or for help on something, or it is
none. -/
inductive Stop where
  | version
  | help
  | usage
  deriving DecidableEq, Repr

/-- How often a switch can be given, and with which values. -/
inductive Arity where
  | bare
  | one (accepts : String → Bool)
  | many

structure Switch where
  name : String
  letter : Option Char
  arity : Arity

/-- The words of a command line, sorted: the switches given with their values, in order, and the
other words. -/
structure Found where
  given : List (String × String)
  words : List String

namespace Found

def none : Found :=
  ⟨[], []⟩

def has (f : Found) (name : String) : Bool :=
  f.given.any fun g => g.1 == name

def value? (f : Found) (name : String) : Option String :=
  f.given.lookup name

def values (f : Found) (name : String) : List String :=
  (f.given.filter fun g => g.1 == name).map Prod.snd

/-- Takes a switch in, which must not be there unless it can be repeated. -/
def give (f : Found) (s : Switch) (value : String) : Except Stop Found :=
  let next : Found := { f with given := f.given ++ [(s.name, value)] }
  match s.arity with
  | .many => .ok next
  | .bare => if f.has s.name then .error .usage else .ok next
  | .one accepts => if f.has s.name || !accepts value then .error .usage else .ok next

def word (f : Found) (w : String) : Found :=
  { f with words := f.words ++ [w] }

end Found

def looksLikeSwitch (w : List Char) : Bool :=
  match w with
  | '-' :: _ :: _ => true
  | _ => false

/-- What a word of switches comes to: the switches taken in, or one that waits for its value. -/
inductive Taken where
  | all (f : Found)
  | waiting (f : Found) (s : Switch)

def takeLong (switches : List Switch) (f : Found) (w : List Char) : Except Stop Taken :=
  let name := String.ofList (w.takeWhile (· != '='))
  match w.dropWhile (· != '='), switches.find? fun s => s.name == name with
  | [], none =>
    if name == "version" then .error .version
    else if name == "help" then .error .help
    else .error .usage
  | _ :: _, none => .error .usage
  | [], some s =>
    match s.arity with
    | .bare => (f.give s "").map .all
    | _ => .ok (.waiting f s)
  | _ :: value, some s =>
    match s.arity with
    | .bare => .error .usage
    | _ => (f.give s (String.ofList value)).map .all

def takeLetters (switches : List Switch) (f : Found) : List Char → Except Stop Taken
  | [] => .ok (.all f)
  | c :: rest =>
    match switches.find? fun s => s.letter == some c with
    | none =>
      if c == 'V' then .error .version else if c == 'h' then .error .help else .error .usage
    | some s =>
      match s.arity, rest with
      | .bare, _ =>
        match f.give s "" with
        | .error stop => .error stop
        | .ok f => takeLetters switches f rest
      | _, [] => .ok (.waiting f s)
      | _, '=' :: value => (f.give s (String.ofList value)).map .all
      | _, value => (f.give s (String.ofList value)).map .all

def takeSwitch (switches : List Switch) (f : Found) (w : List Char) : Except Stop Taken :=
  match w with
  | '-' :: '-' :: name => takeLong switches f name
  | _ => takeLetters switches f w.tail

/-- Where the reading of words ends: behind the last, or at one that is to be read in another
way. -/
structure Scan where
  found : Found
  rest : List String

/-- Sorts words. At most `room` words that are no switches are taken in; without room for any, the
first of them ends the reading unless `--` stands in front. -/
def scan (switches : List Switch) (room : Nat) (bare : Bool) :
    Found → List String → Except Stop Scan
  | f, [] => .ok ⟨f, []⟩
  | f, w :: rest =>
    if !bare && w == "--" then scan switches room true f rest
    else if !bare && looksLikeSwitch w.toList then
      match takeSwitch switches f w.toList with
      | .error stop => .error stop
      | .ok (.all f) => scan switches room false f rest
      | .ok (.waiting f s) =>
        match rest with
        | [] => .error .usage
        | value :: rest =>
          if looksLikeSwitch value.toList then .error .usage
          else
            match f.give s value with
            | .error stop => .error stop
            | .ok f => scan switches room false f rest
    else if f.words.length < room then scan switches room bare (f.word w) rest
    else if room = 0 && !bare then .ok ⟨f, w :: rest⟩
    else .error .usage

end VaultPki.CommandLine
