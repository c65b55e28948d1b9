import VaultPki.Event
import VaultPki.Http.Exchange

/-!
# Reports

What a piece of work leaves behind: its result, the requests that it sent and that arrived, and the
events on the way, both in order.
-/

namespace VaultPki

/-- The outcome of a piece of work. -/
structure Report (α : Type) where
  result : Except Error α
  requests : List Http.Request
  events : List Event

namespace Report

variable {α β : Type}

/-- A result that came about without a trace. -/
def ofResult (r : Except Error α) : Report α :=
  ⟨r, [], []⟩

def note (e : Event) : Report Unit :=
  ⟨.ok (), [], [e]⟩

/-- Puts requests and events in front. -/
def behind (requests : List Http.Request) (events : List Event) (r : Report β) : Report β :=
  ⟨r.result, requests ++ r.requests, events ++ r.events⟩

def bind (r : Report α) (f : α → Report β) : Report β :=
  match r.result with
  | .error e => ⟨.error e, r.requests, r.events⟩
  | .ok a => (f a).behind r.requests r.events

instance : Monad Report where
  pure a := ofResult (.ok a)
  bind := bind

instance : MonadExceptOf Error Report where
  throw e := ofResult (.error e)
  tryCatch r handle :=
    match r.result with
    | .error e => (handle e).behind r.requests r.events
    | .ok _ => r

instance : MonadLift (Except Error) Report where
  monadLift := ofResult

end Report

end VaultPki
