import VaultPki.Engine.Session
import VaultPki.Proofs.Http.Header
import VaultPki.Proofs.Outcome

/-!
# Tokens and requests in a session

Only calls of engines ask for tokens, each of them once and before anything else. So the number of
such calls in front of a step says which answer of the source it gets, and nothing else of what
came before matters to it. With a token that can be sent a call makes one request, which carries
that token; otherwise it makes none.
-/

namespace VaultPki

namespace TokenSource

/-- The answer that a source has for each of the calls, which are counted from zero. -/
def answer : TokenSource → Nat → Except Error String
  | .fixed token, _ => if token == "" then .error .emptyToken else .ok token
  | .handed answers, n => answers[n]?.getD (.error (.token "token source exhausted"))

theorem next_fst (tokens : TokenSource) : tokens.next.1 = tokens.answer 0 := by
  cases tokens with
  | fixed token => rfl
  | handed answers => cases answers <;> rfl

theorem next_fixed {token : String} (h : token ≠ "") :
    (TokenSource.fixed token).next.1 = .ok token :=
  if_neg (by simpa using h)

theorem answer_next_snd (tokens : TokenSource) (n : Nat) :
    tokens.next.2.answer n = tokens.answer (n + 1) := by
  cases tokens with
  | fixed token => rfl
  | handed answers => cases answers <;> rfl

end TokenSource

namespace Step

/-- Whether a step is a call of an engine. -/
def isCall : Step → Bool
  | call _ _ => true
  | _ => false

/-- The report of a step by itself. Of steps that are no calls the answer is not used. -/
def alone (client : Client) (net : Http.Network) (answer : Except Error String) :
    (s : Step) → Report s.Result
  | call mount c => c.perform client net mount answer
  | raw token c => c.perform client net token
  | bind mount => pure ⟨mount⟩

variable {client : Client} {net : Http.Network} {tokens : TokenSource}

theorem perform_fst (s : Step) :
    (s.perform client net tokens).1 = s.alone client net (tokens.answer 0) := by
  cases s with
  | call mount c =>
    rw [alone, ← tokens.next_fst]
    rfl
  | raw token c => rfl
  | bind mount => rfl

/-- A call takes one answer out of the source, and any other step none. -/
theorem answer_perform_snd (s : Step) (n : Nat) :
    (s.perform client net tokens).2.answer n =
      tokens.answer (if s.isCall then n + 1 else n) := by
  cases s with
  | call mount c => exact tokens.answer_next_snd n
  | raw token c => rfl
  | bind mount => rfl

end Step

namespace Session

/-- How many calls of engines there are among steps. -/
def calls (steps : List (Step × Http.Network)) : Nat :=
  steps.countP fun s => s.1.isCall

/-- Every step of a session reports what it would report by itself with the answer whose number is
that of the calls in front of it. -/
theorem run_getElem? (client : Client) (tokens : TokenSource)
    (steps : List (Step × Http.Network)) (i : Nat) :
    (run client tokens steps)[i]? = steps[i]?.map fun s =>
      ⟨s.1, s.1.alone client s.2 (tokens.answer (calls (steps.take i)))⟩ := by
  -- The source is general, because the steps behind the first run with what that leaves of it.
  induction steps generalizing tokens i with
  | nil => rfl
  | cons s steps ih =>
    obtain ⟨s, net⟩ := s
    cases i with
    | zero =>
      show some (Entry.mk s (s.perform client net tokens).1) = _
      rw [Step.perform_fst]
      rfl
    | succ i =>
      show (run client (s.perform client net tokens).2 steps)[i]? = _
      rw [ih, List.getElem?_cons_succ, List.take_succ_cons, calls, calls, List.countP_cons,
        Step.answer_perform_snd]
      cases s.isCall <;> rfl

end Session

/-! ## Requests of a call -/

namespace Client

variable {c : Client} {token : String} {verb : Verb} {u : Url} {body : Option Json}
  {q : Http.Request}

open Http.Headers (named named_append named_eq_nil named_withDefaults)

private theorem authorization_named (u : Url) : named tokenHeader (authorization u) = [] := by
  apply named_eq_nil
  intro h hh
  have hname : h.1 = "authorization" := by
    simp only [authorization] at hh
    split at hh
    · cases hh
    · split at hh
      · cases hh
      · rw [List.mem_singleton.1 hh]
  rw [hname]
  decide

private theorem authHeaders_named {auth : Http.Headers} (h : c.authHeaders token = .ok auth) :
    named tokenHeader auth = [(tokenHeader, token)] := by
  rw [authHeaders] at h
  split at h
  · split at h
    · cases h
      rfl
    · split at h
      · cases h
        rfl
      · cases h
  · cases h

/-- A request carries the token that it was made with, and no other. -/
theorem named_tokenHeader_of_request (h : c.request verb u token body = .ok q) :
    named tokenHeader q.headers = [(tokenHeader, token)] := by
  cases hauth : c.authHeaders token with
  | error e =>
    rw [request_of_authHeaders_error hauth] at h
    cases h
  | ok auth =>
    by_cases hweb : u.scheme = "http" ∨ u.scheme = "https"
    · rw [request_of_authHeaders_ok hauth hweb] at h
      cases h
      have hown : named tokenHeader (authorization u ++ auth ++
          (if body.isSome then [("content-type", "application/json")] else []) : Http.Headers) =
            [(tokenHeader, token)] := by
        rw [named_append, named_append, authorization_named, authHeaders_named hauth]
        cases body <;> rfl
      rw [named_withDefaults (by rw [hown]; exact List.cons_ne_nil _ _), hown]
    · rw [request_off_web hauth hweb] at h
      cases h

end Client

namespace Operation

variable {α : Type} {op : Operation α} {c : Client} {net : Http.Network} {token : String}
  {q : Http.Request}

theorem request_of_invalid_token (h : Http.isHeaderValue token = false) :
    op.request c token = .error .invalidToken :=
  Client.request_of_authHeaders_error (Client.authHeaders_of_invalid_token h)

theorem request_of_invalid_namespace (ht : Http.isHeaderValue token = true)
    (hn : ¬c.HasValidNamespace) : op.request c token = .error .invalidNamespace :=
  Client.request_of_authHeaders_error (Client.authHeaders_of_invalid_namespace ht hn)

theorem request_of_off_web (ht : Http.isHeaderValue token = true) (hn : c.HasValidNamespace)
    (hweb : ¬c.IsOnWeb) : op.request c token = .error .http := by
  refine Client.request_off_web (Client.authHeaders_of_valid ht hn) ?_
  rwa [Client.scheme_address]

/-- Of the network only what becomes of the request matters. -/
theorem perform_congr {net' : Http.Network} (h : op.request c token = .ok q)
    (hnet : net' q = net q) : op.perform c net' token = op.perform c net token := by
  cases hq : net q with
  | answered r =>
    rw [perform_of_answered h hq, perform_of_answered h (hnet.trans hq)]
  | closed => rw [perform_of_closed h hq, perform_of_closed h (hnet.trans hq)]
  | unreachable => rw [perform_of_unreachable h hq, perform_of_unreachable h (hnet.trans hq)]

end Operation

namespace Call

variable {call : Call} {client : Client} {net : Http.Network} {mount token : String}

/-- Whether a call comes to an error without having sent anything. -/
def FailsUnsent (call : Call) (report : Report call.Result) (e : Error) : Prop :=
  report.result = call.settled (.error e) ∧ report.requests = []

/-- How a call proceeds, given what the source of tokens answers. -/
structure Proceeds (call : Call) (client : Client) (net : Http.Network) (mount : String)
    (answer : Except Error String) (report : Report call.Result) : Prop where
  ofRefusal : ∀ e, answer = .error e →
    call.FailsUnsent report e ∧ ∀ verb path, .started verb path ∉ report.events
  ofInvalidToken : ∀ token, answer = .ok token → Http.isHeaderValue token = false →
    call.FailsUnsent report .invalidToken
  ofInvalidNamespace : ∀ token, answer = .ok token → Http.isHeaderValue token = true →
    ¬client.HasValidNamespace → call.FailsUnsent report .invalidNamespace
  offWeb : ∀ token, answer = .ok token → Http.isHeaderValue token = true →
    client.HasValidNamespace → ¬client.IsOnWeb → call.FailsUnsent report .http
  sends : ∀ token, answer = .ok token → client.CanAsk token →
    ∃ q, (call.operation mount).request client token = .ok q ∧
      q.headers.named tokenHeader = [(tokenHeader, token)] ∧
      (net q = .unreachable → report.requests = []) ∧
      (net q ≠ .unreachable → report.requests = [q])
  ofAnswer : ∀ net' : Http.Network,
    (∀ token q, answer = .ok token → (call.operation mount).request client token = .ok q →
      net' q = net q) → call.perform client net' mount answer = report

theorem failsUnsent_of_request_error {e : Error}
    (h : (call.operation mount).request client token = .error e) :
    call.FailsUnsent (call.perform client net mount (.ok token)) e := by
  rw [FailsUnsent, perform_ok, settle_result, settle_requests, Operation.perform_of_request_error h]
  exact ⟨rfl, rfl⟩

theorem perform_of_refusal (call : Call) (client : Client) (net : Http.Network) (mount : String)
    (e : Error) :
    call.FailsUnsent (call.perform client net mount (.error e)) e ∧
      ∀ verb path, .started verb path ∉ (call.perform client net mount (.error e)).events := by
  rw [perform_error, FailsUnsent, settle_result, settle_requests]
  refine ⟨⟨rfl, rfl⟩, fun verb path => ?_⟩
  cases call <;> simp [settle]

theorem perform_proceeds (call : Call) (client : Client) (net : Http.Network) (mount : String)
    (answer : Except Error String) :
    call.Proceeds client net mount answer (call.perform client net mount answer) where
  ofRefusal e he := by
    rw [he]
    exact perform_of_refusal call client net mount e
  ofInvalidToken token htoken h := by
    rw [htoken]
    exact failsUnsent_of_request_error (Operation.request_of_invalid_token h)
  ofInvalidNamespace token htoken h hn := by
    rw [htoken]
    exact failsUnsent_of_request_error (Operation.request_of_invalid_namespace h hn)
  offWeb token htoken h hn hweb := by
    rw [htoken]
    exact failsUnsent_of_request_error (Operation.request_of_off_web h hn hweb)
  sends token htoken hask := by
    obtain ⟨q, hq⟩ := (call.operation mount).exists_request hask
    have hrequests := Operation.perform_requests net hq
    rw [htoken, perform_ok, settle_requests, hrequests]
    refine ⟨q, hq, Client.named_tokenHeader_of_request hq, fun hnet => by rw [hnet], fun hnet => ?_⟩
    cases h : net q with
    | unreachable => exact absurd h hnet
    | _ => rfl
  ofAnswer net' hnet := by
    cases answer with
    | error e => rfl
    | ok token =>
      rw [perform_ok, perform_ok]
      cases hq : (call.operation mount).request client token with
      | error e =>
        rw [Operation.perform_of_request_error hq, Operation.perform_of_request_error hq]
      | ok q => rw [Operation.perform_congr hq (hnet token q rfl hq)]

end Call

namespace Session

/-- A session of any length: each step reports what it would report by itself, where a call gets
the answer of the source whose number is that of the calls in front of it, and proceeds by it. -/
theorem run_in_order (client : Client) (tokens : TokenSource)
    (steps : List (Step × Http.Network)) (i : Nat) :
    ((run client tokens steps)[i]? = steps[i]?.map fun s =>
      ⟨s.1, s.1.alone client s.2 (tokens.answer (calls (steps.take i)))⟩) ∧
    ∀ mount call net, steps[i]? = some (.call mount call, net) →
      ∃ report, (run client tokens steps)[i]? = some ⟨.call mount call, report⟩ ∧
        call.Proceeds client net mount (tokens.answer (calls (steps.take i))) report := by
  refine ⟨run_getElem? client tokens steps i, fun mount call net hstep => ?_⟩
  refine ⟨_, ?_, Call.perform_proceeds call client net mount _⟩
  rw [run_getElem?, hstep]
  rfl

/-- Calls and a raw call, for all of which the connection is closed. -/
def unanswered : List (Step × Http.Network) := [
  (.call "pki" .readUrls, fun _ => .closed),
  (.raw "s.direct" (.delete "pki/root" 204), fun _ => .closed),
  (.call "pki" .isEnabled, fun _ => .closed),
  (.bind "pki", fun _ => .closed),
  (.call "pki" .deleteRoot, fun _ => .closed)]

/-- The last call gets the third answer, though the second was a refusal that it did not see. -/
theorem run_unanswered_last :
    ∃ report q,
      (run Client.standard (.handed [.ok "s.1", .error (.token "denied"), .ok "s.3"])
        unanswered)[4]? = some ⟨.call "pki" .deleteRoot, report⟩ ∧
      report.requests = [q] ∧ q.headers.named tokenHeader = [(tokenHeader, "s.3")] := by
  obtain ⟨report, hentry, hproceeds⟩ := (run_in_order Client.standard
    (.handed [.ok "s.1", .error (.token "denied"), .ok "s.3"]) unanswered 4).2 "pki" .deleteRoot
    (fun _ => .closed) rfl
  obtain ⟨q, -, htoken, -, hsent⟩ := hproceeds.sends "s.3" rfl (Client.standard_canAsk (by decide))
  exact ⟨report, q, hentry, hsent nofun, htoken⟩

end Session

end VaultPki
