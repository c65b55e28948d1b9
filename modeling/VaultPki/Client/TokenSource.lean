import VaultPki.Error
import VaultPki.Client.Environment

/-!
# Sources of tokens

Every call of an engine asks for a token. A source either has one token for all calls, which must
not be empty, or hands out one answer after the other.
-/

namespace VaultPki

/-- Where tokens come from. -/
inductive TokenSource where
  | fixed (token : String)
  | handed (answers : List (Except Error String))

namespace TokenSource

def next : TokenSource → Except Error String × TokenSource
  | .fixed token => (if token == "" then .error .emptyToken else .ok token, .fixed token)
  | .handed [] => (.error (.token "token source exhausted"), .handed [])
  | .handed (a :: rest) => (a, .handed rest)

def ofEnvironment (env : Environment) : Except Error TokenSource :=
  match env.value? "VAULT_TOKEN" with
  | none => .error (.token "VAULT_TOKEN is not set")
  | some token => .ok (.fixed token)

/-- A source as it is shown, without its tokens. -/
def shown : TokenSource → String
  | .fixed _ => "StaticToken \x7b .. \x7d"
  | .handed _ => "TokenSource \x7b .. \x7d"

end TokenSource

end VaultPki
