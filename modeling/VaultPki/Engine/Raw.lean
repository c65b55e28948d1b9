import VaultPki.Client.Answer
import VaultPki.Client.Basic

/-!
# Raw calls

A client can also be used without an engine: any path, with a token of the caller's, and envelopes
with any data.
-/

namespace VaultPki

open Record

/-- A call of the client itself. -/
inductive RawCall where
  | read (path : String)
  | list (path : String)
  | write (path : String) (body : Json)
  | writeOnly (path : String) (body : Json) (expected : Nat)
  | delete (path : String) (expected : Nat)

namespace RawCall

abbrev Result : RawCall → Type
  | read _ | list _ | write _ _ => Envelope Json
  | writeOnly _ _ _ | delete _ _ => Unit

def enveloped (c : Client) (net : Http.Network) (token : String) (verb : Verb) (path : String)
    (body : Option Json) : Report (Envelope Json) := do
  let response ← c.send net token verb path body
  Answer.readEnvelope (Answer.envelope Codec.anything) response

def confirmed (c : Client) (net : Http.Network) (token : String) (verb : Verb) (path : String)
    (body : Option Json) (expected : Nat) : Report Unit := do
  let response ← c.send net token verb path body
  Answer.confirm expected response

def perform (c : Client) (net : Http.Network) (token : String) :
    (call : RawCall) → Report call.Result
  | read path => enveloped c net token .read path none
  | list path => enveloped c net token .list path none
  | write path body => enveloped c net token .write path (some body)
  | writeOnly path body expected => confirmed c net token .write path (some body) expected
  | delete path expected => confirmed c net token .delete path none expected

end RawCall

end VaultPki
