import VaultPki.Engine.Operation
import VaultPki.Proofs.Report

/-!
# What an operation does

An operation makes one request. Either that cannot be made, or it is handed to the network, and
what becomes of it decides the report: there is no second request on any path.
-/

namespace VaultPki

/-- Whether a namespace that may be set can stand in a header. -/
def Client.HasValidNamespace (c : Client) : Prop :=
  ∀ s, c.config.serverNamespace = some s → Http.isHeaderValue s = true

/-- Whether the server is on the web. -/
def Client.IsOnWeb (c : Client) : Prop :=
  c.config.server.scheme = "http" ∨ c.config.server.scheme = "https"

/-- Whether a client can make requests with a token. -/
structure Client.CanAsk (c : Client) (token : String) : Prop where
  validToken : Http.isHeaderValue token = true
  validNamespace : c.HasValidNamespace
  onWeb : c.IsOnWeb

namespace Client

variable {c : Client} {token : String} {verb : Verb} {u : Url} {body : Option Json}

/-! ## Requests -/

theorem authHeaders_of_invalid_token (h : Http.isHeaderValue token = false) :
    c.authHeaders token = .error .invalidToken := by
  rw [authHeaders, if_neg (by simp [h])]

theorem authHeaders_of_invalid_namespace (ht : Http.isHeaderValue token = true)
    (hn : ¬c.HasValidNamespace) : c.authHeaders token = .error .invalidNamespace := by
  obtain ⟨s, hs, hinvalid⟩ : ∃ s, c.config.serverNamespace = some s ∧
      Http.isHeaderValue s ≠ true := by
    simpa [HasValidNamespace] using hn
  rw [authHeaders, if_pos ht, hs]
  exact if_neg hinvalid

theorem authHeaders_of_valid (ht : Http.isHeaderValue token = true)
    (hn : c.HasValidNamespace) :
    c.authHeaders token =
      .ok ((tokenHeader, token) ::
        (c.config.serverNamespace.map fun s => (namespaceHeader, s)).toList) := by
  rw [authHeaders, if_pos ht]
  cases hs : c.config.serverNamespace with
  | none => rfl
  | some s => exact if_pos (hn s hs)

theorem request_of_authHeaders_error {e : Error} (h : c.authHeaders token = .error e) :
    c.request verb u token body = .error e := by
  unfold request
  rw [h]
  rfl

theorem request_of_authHeaders_ok {auth : Http.Headers} (h : c.authHeaders token = .ok auth)
    (hweb : u.scheme = "http" ∨ u.scheme = "https") :
    c.request verb u token body = .ok {
      method := method verb
      target := (destination verb u).target
      headers := Http.Headers.withDefaults
        (authorization u ++ auth ++
          (if body.isSome then [("content-type", "application/json")] else []))
        c.defaults
      body } := by
  unfold request
  rw [h]
  exact if_pos (by simpa using hweb)

theorem request_off_web {auth : Http.Headers} (h : c.authHeaders token = .ok auth)
    (hweb : ¬(u.scheme = "http" ∨ u.scheme = "https")) :
    c.request verb u token body = .error .http := by
  unfold request
  rw [h]
  exact if_neg (by simpa using hweb)

/-- A request goes to the address that it was made for. -/
theorem exists_headers_of_request {q : Http.Request} (h : c.request verb u token body = .ok q) :
    ∃ headers, q = ⟨method verb, (destination verb u).target, headers, body⟩ := by
  cases hauth : c.authHeaders token with
  | error e =>
    rw [request_of_authHeaders_error hauth] at h
    cases h
  | ok auth =>
    by_cases hweb : u.scheme = "http" ∨ u.scheme = "https"
    · rw [request_of_authHeaders_ok hauth hweb] at h
      cases h
      exact ⟨_, rfl⟩
    · rw [request_off_web hauth hweb] at h
      cases h

/-- A target is a path and, behind a question mark, what is asked for beside it. -/
theorem exists_target_destination (v : Verb) (u : Url) :
    ∃ rest, (destination v u).target.toList = u.pathText.toList ++ rest ∧
      (rest = [] ∨ ∃ query, rest = '?' :: query) := by
  have hmarked (u : Url) : ∃ rest, u.target.toList = u.pathText.toList ++ rest ∧
      (rest = [] ∨ ∃ query, rest = '?' :: query) := by
    rw [Url.target, String.toList_append]
    refine ⟨_, rfl, ?_⟩
    cases u.query with
    | none => exact .inl rfl
    | some query => exact .inr ⟨query.toList, by rw [Url.marked, String.toList_append]; rfl⟩
  cases v with
  | list =>
    obtain ⟨rest, htarget, hrest⟩ := hmarked (u.withParameter "list=true")
    refine ⟨rest, ?_, hrest⟩
    rw [destination, htarget]
    unfold Url.withParameter Url.pathText
    split <;> rfl
  | read | write | delete => exact hmarked u

/-- The address of a path differs from that of the server in nothing but the path. -/
theorem address_eq (path : String) :
    ∃ p, c.config.address path = { c.config.server with path := p } := by
  unfold Config.address Url.withPath
  split
  · exact ⟨_, rfl⟩
  · split
    · split <;> exact ⟨_, rfl⟩
    · exact ⟨_, rfl⟩

theorem scheme_address (path : String) :
    (c.config.address path).scheme = c.config.server.scheme := by
  obtain ⟨p, hp⟩ := c.address_eq path
  rw [hp]

theorem query_address (path : String) :
    (c.config.address path).query = c.config.server.query := by
  obtain ⟨p, hp⟩ := c.address_eq path
  rw [hp]

theorem exists_request (verb : Verb) (path : String) (body : Option Json) (hask : c.CanAsk token) :
    ∃ q, c.request verb (c.config.address path) token body = .ok q := by
  have hweb : (c.config.address path).scheme = "http" ∨
      (c.config.address path).scheme = "https" := by
    rw [scheme_address]
    exact hask.onWeb
  exact ⟨_, request_of_authHeaders_ok
    (authHeaders_of_valid hask.validToken hask.validNamespace) hweb⟩

/-- A request is announced and then delivered. -/
theorem send_of_request {net : Http.Network} {path : String} {q : Http.Request}
    (h : c.request verb (c.config.address path) token body = .ok q) :
    c.send net token verb path body =
      (deliver net q).behind [] [.started verb (c.config.address path).pathText] := by
  rw [send, h]
  rfl

/-- The client of the standard configuration. -/
def standard : Client :=
  ⟨Config.standard, defaultHeaders []⟩

theorem standard_canAsk {token : String} (h : Http.isHeaderValue token = true) :
    standard.CanAsk token where
  validToken := h
  validNamespace := by
    intro s hs
    cases hs
  onWeb := .inr rfl

end Client

/-! ## Answers -/

namespace Answer

variable {α : Type}

theorem readEnvelope_refused {decode : List UInt8 → Except Error (Envelope α)}
    {r : Http.Response} (h : r.isSuccess = false) :
    readEnvelope decode r = refuse r := by
  rw [readEnvelope, if_pos (by simp [h])]

theorem readEnvelope_cut_short {decode : List UInt8 → Except Error (Envelope α)}
    {r : Http.Response} (h : r.isSuccess = true) (hc : r.complete = false) :
    readEnvelope decode r = ⟨.error .http, [], []⟩ := by
  rw [readEnvelope, if_neg (by simp [h]), if_pos (by simp [hc])]
  rfl

theorem readEnvelope_complete {decode : List UInt8 → Except Error (Envelope α)}
    {r : Http.Response} (h : r.isSuccess = true) (hc : r.complete = true) :
    readEnvelope decode r = .ofResult (decode r.body) := by
  rw [readEnvelope, if_neg (by simp [h]), if_neg (by simp [hc])]

theorem confirm_refused {expected : Nat} {r : Http.Response} (h : r.isSuccess = false) :
    confirm expected r = refuse r := by
  rw [confirm, if_pos (by simp [h])]

theorem confirm_result (expected : Nat) {r : Http.Response} (h : r.isSuccess = true) :
    (confirm expected r).result = .ok () := by
  rw [confirm, if_neg (by simp [h])]
  split <;> rfl

theorem readEnvelope_requests (decode : List UInt8 → Except Error (Envelope α))
    (r : Http.Response) : (readEnvelope decode r).requests = [] := by
  unfold readEnvelope
  split
  · rfl
  · split <;> rfl

theorem required_requests (e : Envelope α) : (required e).requests = [] := by
  unfold required
  split <;> rfl

theorem confirm_requests (expected : Nat) (r : Http.Response) :
    (confirm expected r).requests = [] := by
  unfold confirm
  split
  · rfl
  · split <;> rfl

end Answer

theorem Exit.read_requests {α : Type} (x : Exit α) (r : Http.Response) :
    (x.read r).requests = [] := by
  have hdata (decode : List UInt8 → Except Error (Envelope (Except Error α))) :
      (readData decode r).requests = [] := by
    rw [readData, Report.bind_requests, Answer.readEnvelope_requests]
    intro e _
    rw [Report.bind_requests, Answer.required_requests]
    intro result _
    rfl
  cases x with
  | confirmation expected value =>
    rw [Exit.read, Report.bind_requests, Answer.confirm_requests]
    intro _ _
    rfl
  | payload decode absent =>
    cases absent with
    | none => exact hdata decode
    | some a =>
      rw [Exit.read]
      split
      · rfl
      · exact hdata decode

/-! ## Operations -/

namespace Operation

variable {α : Type}

/-- The request that an operation makes. -/
def request (op : Operation α) (c : Client) (token : String) : Except Error Http.Request :=
  c.request op.verb (c.config.address op.path) token op.body

/-- The event with which an operation begins. -/
def opening (op : Operation α) (c : Client) : Event :=
  .started op.verb (c.config.address op.path).pathText

/-- What is made of an answer. -/
def conclude (op : Operation α) (r : Http.Response) : Report α := do
  let value ← op.exit.read r
  match op.deed value with
  | some event => Report.note event
  | none => pure ()
  return value

variable {op : Operation α} {c : Client} {net : Http.Network} {token : String}
  {q : Http.Request}

theorem exists_request (op : Operation α) (hask : c.CanAsk token) :
    ∃ q, op.request c token = .ok q :=
  Client.exists_request op.verb op.path op.body hask

theorem conclude_result (op : Operation α) (r : Http.Response) :
    (op.conclude r).result = (op.exit.read r).result := by
  rcases h : op.exit.read r with ⟨result, requests, events⟩
  rw [conclude, h]
  cases result with
  | error e => rfl
  | ok value =>
    rw [Report.ok_bind, Report.behind_result]
    cases op.deed value <;> rfl

theorem conclude_requests (op : Operation α) (r : Http.Response) :
    (op.conclude r).requests = [] := by
  rw [conclude, Report.bind_requests, Exit.read_requests]
  intro value _
  cases op.deed value <;> rfl

theorem perform_eq_send_bind :
    op.perform c net token = (c.send net token op.verb op.path op.body >>= op.conclude) := rfl

theorem perform_of_request_error {e : Error} (h : op.request c token = .error e) :
    op.perform c net token = ⟨.error e, [], [op.opening c]⟩ := by
  rw [request] at h
  rw [perform_eq_send_bind, Client.send, h]
  rfl

theorem perform_of_request (h : op.request c token = .ok q) :
    op.perform c net token =
      ((Client.deliver net q).behind [] [op.opening c] >>= op.conclude) := by
  rw [perform_eq_send_bind, Client.send_of_request h]
  rfl

theorem perform_of_unreachable (h : op.request c token = .ok q)
    (hnet : net q = .unreachable) :
    op.perform c net token = ⟨.error .http, [], [op.opening c]⟩ := by
  rw [perform_of_request h, Client.deliver, hnet]
  rfl

theorem perform_of_closed (h : op.request c token = .ok q) (hnet : net q = .closed) :
    op.perform c net token = ⟨.error .http, [q], [op.opening c]⟩ := by
  rw [perform_of_request h, Client.deliver, hnet]
  rfl

theorem perform_of_answered {r : Http.Response} (h : op.request c token = .ok q)
    (hnet : net q = .answered r) :
    op.perform c net token = (op.conclude r).behind [q] [op.opening c] := by
  rw [perform_of_request h, Client.deliver, hnet]
  rfl

/-- An operation sends the request that it makes, unless nobody is reached. -/
theorem perform_requests (net : Http.Network) (h : op.request c token = .ok q) :
    (op.perform c net token).requests =
      match net q with
      | .unreachable => []
      | _ => [q] := by
  cases hnet : net q with
  | answered r =>
    rw [perform_of_answered h hnet, Report.behind_requests, conclude_requests]
    rfl
  | closed => rw [perform_of_closed h hnet]
  | unreachable => rw [perform_of_unreachable h hnet]

theorem request_of_mem_requests (h : q ∈ (op.perform c net token).requests) :
    op.request c token = .ok q := by
  cases hq : op.request c token with
  | error e =>
    rw [perform_of_request_error hq] at h
    cases h
  | ok q' =>
    rw [perform_requests net hq] at h
    split at h
    · cases h
    · rw [List.mem_singleton.1 h]

end Operation

end VaultPki
