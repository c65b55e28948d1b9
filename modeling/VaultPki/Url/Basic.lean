import VaultPki.Text.Ascii
import VaultPki.Url.Host
import VaultPki.Url.Path

/-!
# Addresses

The address of a resource in its parts, each in the form in which it is written. A host with an
empty name is an authority that names nobody, as in `unix:///run`. An address without an authority
is *shielded* if a dot stands in front of its path, so that a path that begins with two slashes is
not read as an authority.
-/

namespace VaultPki

structure Url where
  scheme : String
  username : String
  password : Option String
  host : Option Url.Host
  port : Option UInt16
  path : Url.Path
  query : Option String
  fragment : Option String
  shielded : Bool := false
  deriving DecidableEq

namespace Url

def isNetwork (scheme : String) : Bool :=
  scheme == "http" || scheme == "https" || scheme == "ws" || scheme == "wss" || scheme == "ftp"

/-- Schemes in which a backslash is a slash and the path is never empty. -/
def isSpecial (scheme : String) : Bool :=
  isNetwork scheme || scheme == "file"

/-- The port that a scheme uses unless another is given. -/
def defaultPort? (scheme : String) : Option UInt16 :=
  if scheme == "http" || scheme == "ws" then some 80
  else if scheme == "https" || scheme == "wss" then some 443
  else if scheme == "ftp" then some 21
  else none

def pathText (u : Url) : String :=
  u.path.toText

/-- The user name and password with the sign behind them. -/
def credentialsText (u : Url) : String :=
  match u.username, u.password with
  | "", none => ""
  | name, none => name ++ "@"
  | name, some password => name ++ ":" ++ password ++ "@"

/-- A port with the colon in front. -/
def portText : Option UInt16 → String
  | none => ""
  | some port => ":" ++ port.toNat.repr

def authorityText (u : Url) : String :=
  match u.host with
  | some host => "//" ++ u.credentialsText ++ host.toText ++ portText u.port
  | none => if u.shielded then "/." else ""

/-- An optional part with the character that announces it. -/
def marked (mark : String) : Option String → String
  | none => ""
  | some s => mark ++ s

def target (u : Url) : String :=
  u.pathText ++ marked "?" u.query

def toText (u : Url) : String :=
  u.scheme ++ ":" ++ u.authorityText ++ u.target ++ marked "#" u.fragment

/-- The host, unless its name is empty. -/
def namedHost? (u : Url) : Option Host :=
  u.host.filter fun h => h != .domain ""

/-- Whether nothing can be resolved against the address, as its path is no list of segments. -/
def isRootless (u : Url) : Bool :=
  match u.path with
  | .rootless _ => true
  | .rooted _ => false

def shown (u : Url) : String :=
  Text.shownRecord "Url" [
    ("scheme", Text.quoted u.scheme),
    ("cannot_be_a_base", Text.shownBool u.isRootless),
    ("username", Text.quoted u.username),
    ("password", Text.shownOption Text.quoted u.password),
    ("host", Text.shownOption Host.shown u.namedHost?),
    ("port", Text.shownOption (fun p => p.toNat.repr) u.port),
    ("path", Text.quoted u.pathText),
    ("query", Text.shownOption Text.quoted u.query),
    ("fragment", Text.shownOption Text.quoted u.fragment)]

/-- The path that a text stands for in addresses of a scheme. Outside the special schemes it may be
empty. -/
def rootedPath (scheme : String) (text : List Char) : Path :=
  let special := isSpecial scheme
  let files := scheme == "file"
  if !special && text.all Path.isDropped then .rooted []
  else .rooted ((Path.walk files special (Path.behindSlash special text)).segments files)

/-- A path that is no list of segments: only controls and characters outside ASCII are encoded. -/
def rootlessPath (text : List Char) : Path :=
  .rootless (String.ofList
    (Percent.encode Percent.isControl (text.filter fun c => !Path.isDropped c)))

/-- The address with another path, shielded as it was. A path without root cannot begin with a plain
slash. -/
def withPath (u : Url) (text : List Char) : Url :=
  match u.path with
  | .rooted _ => { u with path := rootedPath u.scheme text }
  | .rootless _ =>
    match text with
    | '/' :: rest =>
      match rootlessPath rest with
      | .rootless s => { u with path := .rootless ("%2F" ++ s) }
      | path => { u with path }
    | text => { u with path := rootlessPath text }

/-- The address with a parameter behind those of its query. -/
def withParameter (u : Url) (parameter : String) : Url :=
  match u.query with
  | none => { u with query := some parameter }
  | some "" => { u with query := some parameter }
  | some query => { u with query := some (query ++ "&" ++ parameter) }

end Url

end VaultPki
