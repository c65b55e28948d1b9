import VaultPki.Client.TokenSource
import VaultPki.Engine.Call
import VaultPki.Engine.Raw

/-!
# Sessions

A session uses one client and one source of tokens for a sequence of steps: calls of engines, raw
calls with a token of their own, and the binding of engines to mounts, for which nothing is sent.
-/

namespace VaultPki

structure Engine where
  mount : String
  deriving DecidableEq

def Engine.shown (e : Engine) : String :=
  Text.shownPartOf "PkiSecretEngine" [("mount", Text.quoted e.mount)]

/-- What hands out engines and manages mounts, as it is shown. -/
def Client.shownFactory (c : Client) : String :=
  Text.shownPartOf "PkiSecretEngineFactory" [("server_url", Text.quoted c.config.server.toText)]

inductive Step where
  | call (mount : String) (c : Call)
  | raw (token : String) (c : RawCall)
  | bind (mount : String)

namespace Step

abbrev Result : Step → Type
  | call _ c => c.Result
  | raw _ c => c.Result
  | bind _ => Engine

/-- Carries a step out; gives its report and the source of tokens afterwards. -/
def perform (client : Client) (net : Http.Network) (tokens : TokenSource) :
    (s : Step) → Report s.Result × TokenSource
  | call mount c => (c.perform client net mount tokens.next.1, tokens.next.2)
  | raw token c => (c.perform client net token, tokens)
  | bind mount => (pure ⟨mount⟩, tokens)

end Step

namespace Session

structure Entry where
  step : Step
  report : Report step.Result

/-- Carries steps out one after the other, each on a network of its own. -/
def run (client : Client) : TokenSource → List (Step × Http.Network) → List Entry
  | _, [] => []
  | tokens, (s, net) :: rest =>
    let (report, tokens) := s.perform client net tokens
    ⟨s, report⟩ :: run client tokens rest

end Session

end VaultPki
