import VaultPki.Url.Basic

/-!
# Reading addresses

An address is read from left to right: scheme, user name and password, host, port, path, query and
fragment. Blanks and controls at the ends are dropped, tabs and line ends everywhere.
-/

namespace VaultPki.Url.Reader

/-- Controls and the space, which are dropped at the ends. -/
def isOuterBlank (c : Char) : Bool :=
  c.toNat ≤ 0x20

def trimmed (s : String) : List Char :=
  ((s.toList.dropWhile isOuterBlank).reverse.dropWhile isOuterBlank).reverse

/-- A text without what is dropped wherever it stands. -/
def cleaned (cs : List Char) : List Char :=
  cs.filter fun c => !Path.isDropped c

/-- Characters that may follow the first letter of a scheme. -/
def isSchemeChar (c : Char) : Bool :=
  c.isAlphanum || c == '+' || c == '-' || c == '.'

/-- The scheme in lower case, and what stands behind its colon. -/
def scheme? (cs : List Char) : Option (String × List Char) :=
  match cs with
  | [] => none
  | c :: _ =>
    if c.isAlpha then
      match cs.dropWhile isSchemeChar with
      | ':' :: rest => some (String.ofList ((cs.takeWhile isSchemeChar).map Char.toLower), rest)
      | _ => none
    else none

def isSlash (special : Bool) (c : Char) : Bool :=
  c == '/' || (special && c == '\\')

def endsAuthority (special : Bool) (c : Char) : Bool :=
  isSlash special c || c == '?' || c == '#'

/-- A text cut at the last sign `@`: what stands in front of it and behind it. -/
def cutAtLastSign (cs : List Char) : Option (List Char × List Char) :=
  let back := cs.reverse
  match back.dropWhile (· != '@') with
  | [] => none
  | _ :: front => some (front.reverse, (back.takeWhile (· != '@')).reverse)

/-- User name and password. The first colon begins the password, if anything follows it. -/
def credentials (cs : List Char) : String × Option String :=
  let encoded (part : List Char) : String :=
    String.ofList (Percent.encode Percent.credentialSet part)
  let name := cs.takeWhile (· != ':')
  match cs.dropWhile (· != ':') with
  | [] => (encoded name, none)
  | [_] => (encoded name, none)
  | _ :: password => (encoded name, some (encoded password))

/-- How many characters belong to the host: those in front of a colon outside brackets. -/
def hostLength (inBrackets : Bool) : List Char → Nat
  | [] => 0
  | c :: cs =>
    if c == ':' && !inBrackets then 0
    else hostLength (c == '[' || (inBrackets && c != ']')) cs + 1

/-- The port that stands behind the colon, and what stands behind it, which is nothing or begins
with a backslash. The default of the scheme is not kept. -/
def port (scheme : String) (cs : List Char) : Except Problem (Option UInt16 × List Char) :=
  let digits := cs.takeWhile Char.isDigit
  let rest := cs.dropWhile Char.isDigit
  if rest.head?.any (· != '\\') then .error .invalidPort
  else
    match Text.Ascii.decimal? digits with
    | none => .ok (none, rest)
    | some n =>
      if n < 65536 then
        let p := UInt16.ofNat n
        .ok (if defaultPort? scheme == some p then none else some p, rest)
      else .error .invalidPort

/-- What stands between the two slashes and the path. -/
structure Authority where
  username : String
  password : Option String
  host : Host
  port : Option UInt16

def hostAndPort (scheme : String) (cs : List Char) :
    Except Problem (Host × Option UInt16 × List Char) := do
  let n := hostLength false cs
  let name := cs.take n
  let behind := cs.drop n
  if isNetwork scheme && name.isEmpty then throw .emptyHost
  let host ← Host.ofText (isSpecial scheme) name
  if name.isEmpty && !behind.isEmpty then throw .emptyHost
  let (port, rest) ← port scheme behind.tail
  return (host, port, rest)

/-- The authority at the front of a text that ends where the path begins at the latest, and what
stands behind it. In front of the sign `@` stand user name and password; where they stand, a host
must follow. -/
def authority (scheme : String) (continued : Bool) (cs : List Char) :
    Except Problem (Authority × List Char) :=
  match cutAtLastSign cs with
  | none => (hostAndPort scheme cs).map fun (host, port, rest) => (⟨"", none, host, port⟩, rest)
  | some ([], cs) =>
    if cs.isEmpty && continued then .error .emptyHost
    else (hostAndPort scheme cs).map fun (host, port, rest) => (⟨"", none, host, port⟩, rest)
  | some (front, cs) =>
    let (username, password) := credentials front
    match hostAndPort scheme cs with
    | .error p => .error p
    | .ok (host, port, rest) =>
      if host == .domain "" && (username != "" || password.isSome) then .error .emptyHost
      else .ok (⟨username, password, host, port⟩, rest)

/-- A text cut in front of the first question mark or hash, and what stands behind them. -/
structure Tail where
  front : List Char
  query : Option (List Char)
  fragment : Option (List Char)

def Tail.of (cs : List Char) : Tail :=
  let fragment := match cs.dropWhile (· != '#') with
    | [] => none
    | _ :: rest => some rest
  let cs := cs.takeWhile (· != '#')
  let query := match cs.dropWhile (· != '?') with
    | [] => none
    | _ :: rest => some rest
  ⟨cs.takeWhile (· != '?'), query, fragment⟩

def needsShield : Path → Bool
  | .rooted ("" :: _ :: _) => true
  | _ => false

/-- The address, when everything in front of the query is known. -/
def assemble (scheme : String) (a : Option Authority) (path : Path) (tail : Tail) : Url where
  scheme
  username := (a.map Authority.username).getD ""
  password := a.bind Authority.password
  host := a.map Authority.host
  port := a.bind Authority.port
  path
  query :=
    let set := if isSpecial scheme then Percent.specialQuerySet else Percent.querySet
    tail.query.map fun q => String.ofList (Percent.encode set (cleaned q))
  fragment := tail.fragment.map fun f =>
    String.ofList (Percent.encode Percent.fragmentSet (cleaned f))
  shielded := a.isNone && needsShield path

/-- What follows the two slashes in front of an authority. -/
def afterSlashes (scheme : String) (cs : List Char) : Except Problem Url :=
  let ends := endsAuthority (isSpecial scheme)
  let behind := cs.dropWhile fun c => !ends c
  match authority scheme (!behind.isEmpty) (cs.takeWhile fun c => !ends c) with
  | .error p => .error p
  | .ok (a, rest) =>
    let tail := Tail.of (rest ++ behind)
    .ok (assemble scheme a (rootedPath scheme tail.front) tail)

/-- What stands behind a slash, if a text begins with one. -/
def afterSlash? (cs : List Char) : Option (List Char) :=
  match cs.dropWhile Path.isDropped with
  | [] => none
  | c :: rest => if isSlash true c then some rest else none

/-- The host of a file. The machine itself has no name. -/
def fileHost (name : List Char) : Except Problem Host :=
  if name.isEmpty then .ok (.domain "")
  else
    match Host.ofText true name with
    | .error p => .error p
    | .ok host => .ok (if host == .domain "localhost" then .domain "" else host)

/-- A file on a host, or on the machine itself if that is not named. -/
def file (host : Host) (walk : Path.Walk) (tail : Tail) : Url :=
  assemble "file" (some ⟨"", none, host, none⟩) (.rooted (walk.segments true)) tail

/-- A file of the machine itself, whose path may begin with a slash. -/
def localFile (cs : List Char) : Url :=
  let tail := Tail.of cs
  file (.domain "") (Path.walk true true ((afterSlash? tail.front).getD tail.front)) tail

/-- What follows the scheme of files. Only behind two slashes a host may stand, and a drive takes
its place. Without a host, the slash behind them ends an empty segment. -/
def afterFile (cs : List Char) : Except Problem Url :=
  match (afterSlash? cs).bind afterSlash? with
  | none => .ok (localFile cs)
  | some rest =>
    let ends := endsAuthority true
    let name := cleaned (rest.takeWhile fun c => !ends c)
    let behind := Tail.of (rest.dropWhile fun c => !ends c)
    if Path.isDrive name then .ok (localFile rest)
    else
      match fileHost name with
      | .error p => .error p
      | .ok host =>
        if host == .domain "" then .ok (file host (Path.walk true true behind.front) behind)
        else
          let walk := Path.walk true true (Path.behindSlash true behind.front)
          .ok (file (if walk.foundDrive then .domain "" else host) walk behind)

def afterOther (scheme : String) (cs : List Char) : Except Problem Url :=
  match cs with
  | '/' :: '/' :: rest => afterSlashes scheme rest
  | '/' :: _ =>
    let tail := Tail.of cs
    .ok (assemble scheme none (rootedPath scheme tail.front) tail)
  | _ =>
    let tail := Tail.of cs
    .ok (assemble scheme none (rootlessPath tail.front) tail)

end VaultPki.Url.Reader

namespace VaultPki.Url

open Reader in
/-- The address that a text stands for. What is dropped wherever it stands can matter in the paths
of files, which are therefore read as they are. -/
def ofText (s : String) : Except Problem Url :=
  match scheme? (cleaned (trimmed s)) with
  | none => .error .missingScheme
  | some (scheme, rest) =>
    if isNetwork scheme then afterSlashes scheme (rest.dropWhile (isSlash true))
    else if scheme == "file" then afterFile ((trimmed s).dropWhile (· != ':')).tail
    else afterOther scheme rest

end VaultPki.Url
