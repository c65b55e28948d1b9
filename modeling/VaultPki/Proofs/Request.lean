import VaultPki.Engine.Session
import VaultPki.Proofs.Outcome

/-!
# The request of a step

Whatever a step of a session sends was made with the token of that step, and could be made: the
token and the namespace can stand in headers, and the server is on the web.
-/

namespace VaultPki

namespace Client

variable {c : Client} {net : Http.Network} {token path : String} {verb : Verb} {u : Url}
  {body : Option Json} {q : Http.Request}

theorem request_of_mem_send (h : q ∈ (c.send net token verb path body).requests) :
    c.request verb (c.config.address path) token body = .ok q := by
  cases hq : c.request verb (c.config.address path) token body with
  | error e =>
    rw [send, hq] at h
    cases h
  | ok q' =>
    rw [send_of_request hq, Report.behind_requests, List.nil_append, deliver] at h
    split at h
    · rw [List.mem_singleton.1 h]
    · rw [List.mem_singleton.1 h]
    · cases h

/-- Requests are made only with what can stand in headers, and only for servers on the web. -/
theorem canAsk_of_request (h : c.request verb (c.config.address path) token body = .ok q) :
    c.CanAsk token := by
  have hnever {e : Error} {p : Prop} (herror : c.authHeaders token = .error e) : p := by
    rw [request_of_authHeaders_error herror] at h
    cases h
  have htoken : Http.isHeaderValue token = true := by
    by_contra hinvalid
    exact hnever (authHeaders_of_invalid_token (Bool.eq_false_iff.2 hinvalid))
  have hnamespace : c.HasValidNamespace := by
    by_contra hinvalid
    exact hnever (authHeaders_of_invalid_namespace htoken hinvalid)
  refine ⟨htoken, hnamespace, ?_⟩
  by_contra hweb
  rw [request_off_web (authHeaders_of_valid htoken hnamespace)
    (by rwa [scheme_address])] at h
  cases h

end Client

namespace RawCall

/-- What a raw call does with its path. -/
def verb : RawCall → Verb
  | read _ => .read
  | list _ => .list
  | write _ _ | writeOnly _ _ _ => .write
  | delete _ _ => .delete

variable {c : Client} {net : Http.Network} {token : String} {q : Http.Request}

theorem exists_request_of_mem {call : RawCall} (h : q ∈ (call.perform c net token).requests) :
    ∃ path body, c.request call.verb (c.config.address path) token body = .ok q := by
  have henveloped {verb : Verb} {path : String} {body : Option Json}
      (h : q ∈ (enveloped c net token verb path body).requests) :
      c.request verb (c.config.address path) token body = .ok q := by
    rw [enveloped, Report.bind_requests fun r _ => Answer.readEnvelope_requests _ r] at h
    exact Client.request_of_mem_send h
  have hconfirmed {verb : Verb} {path : String} {body : Option Json} {expected : Nat}
      (h : q ∈ (confirmed c net token verb path body expected).requests) :
      c.request verb (c.config.address path) token body = .ok q := by
    rw [confirmed, Report.bind_requests fun r _ => Answer.confirm_requests expected r] at h
    exact Client.request_of_mem_send h
  cases call with
  | read path => exact ⟨path, none, henveloped h⟩
  | list path => exact ⟨path, none, henveloped h⟩
  | write path body => exact ⟨path, some body, henveloped h⟩
  | writeOnly path body expected => exact ⟨path, some body, hconfirmed h⟩
  | delete path expected => exact ⟨path, none, hconfirmed h⟩

end RawCall

namespace Step

/-- The token of a step: what the source hands out for a call, and its own for a raw call. -/
def token? (tokens : TokenSource) : Step → Option String
  | call _ _ => tokens.next.1.toOption
  | raw token _ => some token
  | bind _ => none

/-- What a step does with a path, if it makes a request. -/
def verb? : Step → Option Verb
  | call mount c => some (c.operation mount).verb
  | raw _ c => some c.verb
  | bind _ => none

variable {s : Step} {c : Client} {net : Http.Network} {tokens : TokenSource} {q : Http.Request}

/-- What a step sends was made with its verb and its token. -/
theorem exists_request_of_mem (h : q ∈ (s.perform c net tokens).1.requests) :
    ∃ verb path token body, s.verb? = some verb ∧ s.token? tokens = some token ∧
      c.request verb (c.config.address path) token body = .ok q := by
  cases s with
  | call mount call =>
    have h : q ∈ (call.perform c net mount tokens.next.1).requests := h
    rw [token?]
    cases htoken : tokens.next.1 with
    | error e =>
      rw [htoken, Call.perform_error, Call.settle_requests] at h
      cases h
    | ok token =>
      rw [htoken, Call.perform_ok, Call.settle_requests] at h
      exact ⟨_, _, token, _, rfl, rfl, Operation.request_of_mem_requests h⟩
  | raw token call =>
    obtain ⟨path, body, hq⟩ := RawCall.exists_request_of_mem h
    exact ⟨_, path, token, body, rfl, rfl, hq⟩
  | bind mount => cases h

end Step

end VaultPki
