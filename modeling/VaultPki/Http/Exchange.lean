import VaultPki.Http.Header
import VaultPki.Json.Basic

/-!
# Exchanges

A request as it is sent, and what becomes of it: an answer, a connection that is closed without one,
or no connection at all. A body may end before its announced length.
-/

namespace VaultPki.Http

/-- What a request asks to be done. -/
inductive Method where
  | get
  | post
  | delete
  deriving DecidableEq, Repr

def Method.text : Method → String
  | .get => "GET"
  | .post => "POST"
  | .delete => "DELETE"

structure Request where
  method : Method
  target : String
  headers : Headers
  body : Option Json

/-- An answer, with what is read of it. Its headers are left out: of these only `Location` could
matter, which leads to another address, and no answer here carries it. -/
structure Response where
  status : Nat
  body : List UInt8
  complete : Bool

def Response.isSuccess (r : Response) : Bool :=
  200 ≤ r.status && r.status < 300

/-- What becomes of a request. -/
inductive Outcome where
  | answered (r : Response)
  | closed
  | unreachable

abbrev Network := Request → Outcome

def Network.down : Network :=
  fun _ => .unreachable

end VaultPki.Http
