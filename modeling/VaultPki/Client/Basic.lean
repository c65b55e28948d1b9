import VaultPki.Base64
import VaultPki.Client.Config
import VaultPki.Pem.Bundle
import VaultPki.Report
import VaultPki.Url.Percent

/-!
# Clients

A client holds a configuration that has been checked, and sends requests. The token and the
namespace are set for each request; what the configuration adds never takes their place.
-/

namespace VaultPki

def userAgent : String := "vault-pki-client/0.1.0"

def version : String := "0.1.0"

def tokenHeader : String := "x-vault-token"

def namespaceHeader : String := "x-vault-namespace"

/-- A client: its configuration and the headers for requests that do not set them. -/
structure Client where
  config : Config
  defaults : Http.Headers

namespace Client

/-- Whether every bundle holds a certificate. Those that it holds are taken to be usable. -/
def checkTrust : Trust → Except Error Unit
  | .bundles pems => forM pems fun pem => discard (Pem.requireCertificates pem)
  | _ => .ok ()

/-- Whether certificate and key can be used together. -/
def checkIdentity : Option Identity → Except Error Unit
  | none => .ok ()
  | some i =>
    if Pem.isIdentity (i.certificate ++ 10 :: i.key) then .ok () else .error .invalidIdentity

/-- The headers that every request has unless it is told otherwise. -/
def builtInHeaders : Http.Headers :=
  [("accept", "*/*"), ("user-agent", userAgent)]

def isHeader (h : String × String) : Bool :=
  Http.isHeaderName h.1 && Http.isHeaderValue h.2

/-- The built-in headers with those that the configuration adds. -/
def defaultHeaders (added : List (String × String)) : Http.Headers :=
  (added.filter isHeader).foldl
    (fun hs h => Http.Headers.set (Text.Ascii.lower h.1) h.2 hs) builtInHeaders

def ignored (added : List (String × String)) : List Event :=
  (added.filter fun h => !isHeader h).map fun h => .ignoredHeader h.1

def ofConfig (c : Config) : Report Client := do
  checkTrust c.trust
  checkIdentity c.identity
  Report.behind [] (ignored c.headers) (pure ⟨c, defaultHeaders c.headers⟩)

/-- The text of a part of an address in which encoded bytes are decoded. -/
def plainText? (s : String) : Option String :=
  Text.Utf8.text? (Url.Percent.decode (Text.Utf8.encode s))

/-- The header for the user name and password of an address. -/
def authorization (u : Url) : Http.Headers :=
  match plainText? u.username with
  | none => []
  | some name =>
    let password := u.password.bind plainText?
    if name.isEmpty && password.isNone then []
    else
      let code := Base64.encode (Text.Utf8.encode (name ++ ":" ++ password.getD ""))
      [("authorization", "Basic " ++ Text.Utf8.text code)]

def authHeaders (c : Client) (token : String) : Except Error Http.Headers :=
  if Http.isHeaderValue token then
    match c.config.serverNamespace with
    | none => .ok [(tokenHeader, token)]
    | some s =>
      if Http.isHeaderValue s then .ok [(tokenHeader, token), (namespaceHeader, s)]
      else .error .invalidNamespace
  else .error .invalidToken

def method : Verb → Http.Method
  | .read | .list => .get
  | .write => .post
  | .delete => .delete

def destination (verb : Verb) (u : Url) : Url :=
  match verb with
  | .list => u.withParameter "list=true"
  | _ => u

/-- The request for a verb. Only servers on the web can be asked. -/
def request (c : Client) (verb : Verb) (u : Url) (token : String) (body : Option Json) :
    Except Error Http.Request := do
  let auth ← c.authHeaders token
  if u.scheme == "http" || u.scheme == "https" then
    let content : Http.Headers :=
      if body.isSome then [("content-type", "application/json")] else []
    return {
      method := method verb
      target := (destination verb u).target
      headers := (authorization u ++ auth ++ content : Http.Headers).withDefaults c.defaults
      body }
  else throw .http

/-- Sends a request once. Answers carry no `Location`, so there is no redirection to follow; and the
lengths of addresses and of names of headers have no limit here, so whatever can be written as a
request is sent. -/
def deliver (net : Http.Network) (r : Http.Request) : Report Http.Response :=
  match net r with
  | .answered response => ⟨.ok response, [r], []⟩
  | .closed => ⟨.error .http, [r], []⟩
  | .unreachable => ⟨.error .http, [], []⟩

def send (c : Client) (net : Http.Network) (token : String) (verb : Verb) (path : String)
    (body : Option Json) : Report Http.Response := do
  let u := c.config.address path
  Report.note (.started verb u.pathText)
  let r ← c.request verb u token body
  deliver net r

end Client

end VaultPki
