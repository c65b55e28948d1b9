import VaultPki.Error
import VaultPki.Text.Quoted
import VaultPki.Url.Reader

/-!
# Configuration

Where the server is and how to talk to it. A configuration is built from a sequence of settings, of
which the last for each part counts; additional headers are collected in order.
-/

namespace VaultPki

/-- The part of the path under which the server answers. -/
def apiSegment : String := "v1"

/-- A certificate with its private key, both in PEM. -/
structure Identity where
  certificate : List UInt8
  key : List UInt8
  deriving DecidableEq

/-- Whom to believe that a server is what it says. -/
inductive Trust where
  | publicRoots
  | bundles (pems : List (List UInt8))
  | anyone
  deriving DecidableEq

/-- Trust as it is shown, without the bundles. -/
def Trust.shown : Trust → String
  | .publicRoots => "WebPki"
  | .bundles pems => "Explicit(" ++ pems.length.repr ++ " bundles)"
  | .anyone => "InsecureAcceptAny"

/-- A time of waiting, to the nanosecond. -/
structure Duration where
  nanoseconds : Nat
  deriving DecidableEq

namespace Duration

def ofSeconds (n : Nat) : Duration :=
  ⟨n * 1000000000⟩

/-- Parts of a unit, of which ten to the power of `places` make one, as a decimal fraction without
zeros at its end. -/
def shownIn (unit : String) (places parts : Nat) : String :=
  let digits := (Text.Ascii.paddedDecimal places (parts % Nat.pow 10 places)).toList
  let fraction := (digits.reverse.dropWhile (· == '0')).reverse
  let point := if fraction.isEmpty then [] else '.' :: fraction
  (parts / Nat.pow 10 places).repr ++ String.ofList point ++ unit

/-- A duration in the largest unit of which it has at least one. -/
def shown (d : Duration) : String :=
  if 1000000000 ≤ d.nanoseconds then shownIn "s" 9 d.nanoseconds
  else if 1000000 ≤ d.nanoseconds then shownIn "ms" 6 d.nanoseconds
  else if 1000 ≤ d.nanoseconds then shownIn "µs" 3 d.nanoseconds
  else shownIn "ns" 0 d.nanoseconds

end Duration

/-- How to talk to the server. The namespace is that of the server, if it has several. -/
structure Config where
  server : Url
  serverNamespace : Option String
  identity : Option Identity
  trust : Trust
  timeout : Duration
  headers : List (String × String)
  deriving DecidableEq

namespace Config

def defaultTimeout : Duration := .ofSeconds 30

def localServer : Url where
  scheme := "https"
  username := ""
  password := none
  host := some (.ipv4 0x7F000001)
  port := some 8200
  path := .rooted [""]
  query := none
  fragment := none

/-- The configuration for the server on the machine itself. -/
def standard : Config where
  server := localServer
  serverNamespace := none
  identity := none
  trust := .publicRoots
  timeout := defaultTimeout
  headers := []

inductive Setting where
  | server (u : Url)
  | serverNamespace (s : String)
  | identity (i : Identity)
  | trust (t : Trust)
  | timeout (d : Duration)
  | header (name value : String)
  deriving DecidableEq

/-- The setting of the server whose address is a text. -/
def Setting.serverText (s : String) : Except Error Setting :=
  match Url.ofText s with
  | .error p => .error (.url p)
  | .ok u => .ok (.server u)

/-- What a caller can say about a configuration. Server and identity can be given in two ways, and
there are three kinds of trust. -/
inductive Directive where
  | serverText (s : String)
  | server (u : Url)
  | serverNamespace (s : String)
  | identity (i : Identity)
  | identityParts (certificate key : List UInt8)
  | trustPublicRoots
  | trustBundles (pems : List (List UInt8))
  | trustAnyone
  | timeout (d : Duration)
  | header (name value : String)
  deriving DecidableEq

/-- The setting that a directive makes, unless it is the text of no address. -/
def Directive.setting : Directive → Except Error Setting
  | .serverText s => Setting.serverText s
  | .server u => .ok (.server u)
  | .serverNamespace s => .ok (.serverNamespace s)
  | .identity i => .ok (.identity i)
  | .identityParts certificate key => .ok (.identity ⟨certificate, key⟩)
  | .trustPublicRoots => .ok (.trust .publicRoots)
  | .trustBundles pems => .ok (.trust (.bundles pems))
  | .trustAnyone => .ok (.trust .anyone)
  | .timeout d => .ok (.timeout d)
  | .header name value => .ok (.header name value)

/-- What has been set so far. -/
structure Draft where
  server : Option Url := none
  serverNamespace : Option String := none
  identity : Option Identity := none
  trust : Option Trust := none
  timeout : Option Duration := none
  headers : List (String × String) := []

namespace Draft

def apply (d : Draft) : Setting → Draft
  | .server u => { d with server := some u }
  | .serverNamespace s => { d with serverNamespace := some s }
  | .identity i => { d with identity := some i }
  | .trust t => { d with trust := some t }
  | .timeout t => { d with timeout := some t }
  | .header name value => { d with headers := d.headers ++ [(name, value)] }

def ofSettings (settings : List Setting) : Draft :=
  settings.foldl apply {}

/-- The configuration, for which the server must have been set. -/
def build (d : Draft) : Except Error Config :=
  match d.server with
  | none => .error (.config "server_url is required")
  | some server => .ok {
      server
      serverNamespace := d.serverNamespace
      identity := d.identity
      trust := d.trust.getD .publicRoots
      timeout := d.timeout.getD defaultTimeout
      headers := d.headers }

end Draft

def ofSettings (settings : List Setting) : Except Error Config :=
  (Draft.ofSettings settings).build

/-- The configuration that directives make in their order. The first that cannot be followed ends
it. -/
def ofDirectives (directives : List Directive) : Except Error Config := do
  ofSettings (← directives.mapM Directive.setting)

/-- A configuration as it is shown, without the identity and the headers. -/
def shown (c : Config) : String :=
  Text.shownRecord "VaultClientConfig" [
    ("server_url", c.server.shown),
    ("namespace", Text.shownOption Text.quoted c.serverNamespace),
    ("client_identity", Text.shownBool c.identity.isSome),
    ("trust_anchors", c.trust.shown),
    ("timeout", c.timeout.shown)]

def trimEndSlashes (s : String) : List Char :=
  (s.toList.reverse.dropWhile (· == '/')).reverse

/-- The address of a path on the server, below the path of the server itself. -/
def address (c : Config) (path : String) : Url :=
  c.server.withPath
    (trimEndSlashes c.server.pathText ++ '/' :: apiSegment.toList ++ '/' ::
      path.toList.dropWhile (· == '/'))

end Config

end VaultPki
