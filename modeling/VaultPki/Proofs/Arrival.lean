import VaultPki.Proofs.Outcome

/-!
# Answers that arrive

A call makes at most one request, so at most one answer arrives for it. If one does, the call comes
to what is read from it; if none does, the call fails, and nothing is reported but that it began.
-/

namespace VaultPki

namespace Operation

variable {α : Type}

/-- The event of a deed that has succeeded. -/
def deedEvents (op : Operation α) : Except Error α → List Event
  | .ok value => (op.deed value).toList
  | .error _ => []

theorem conclude_events (op : Operation α) (r : Http.Response) :
    (op.conclude r).events = (op.exit.read r).events ++ op.deedEvents (op.exit.read r).result := by
  rcases h : op.exit.read r with ⟨result, requests, events⟩
  rw [conclude, h]
  cases result with
  | error e => exact (List.append_nil events).symm
  | ok value =>
    rw [Report.ok_bind, deedEvents]
    cases op.deed value <;> rfl

end Operation

namespace Call

variable {call : Call} {c : Client} {net : Http.Network} {mount : String}
  {answer : Except Error String} {r r' : Http.Response}

/-- Whether an answer of the server arrives for a call. -/
def Receives (call : Call) (c : Client) (net : Http.Network) (mount : String)
    (answer : Except Error String) (r : Http.Response) : Prop :=
  ∃ token q, answer = .ok token ∧ (call.operation mount).request c token = .ok q ∧
    net q = .answered r

theorem receives_of_canAsk {token : String} (hask : c.CanAsk token)
    (hnet : ∀ q, net q = .answered r) : call.Receives c net mount (.ok token) r := by
  obtain ⟨q, hq⟩ := (call.operation mount).exists_request hask
  exact ⟨token, q, rfl, hq, hnet q⟩

theorem Receives.unique (h : call.Receives c net mount answer r)
    (h' : call.Receives c net mount answer r') : r = r' := by
  obtain ⟨token, q, htoken, hq, hnet⟩ := h
  obtain ⟨token', q', htoken', hq', hnet'⟩ := h'
  cases htoken.symm.trans htoken'
  cases hq.symm.trans hq'
  cases hnet.symm.trans hnet'
  rfl

/-- The event with which a call begins, if it is given a token. -/
def openings (call : Call) (c : Client) (mount : String) : Except Error String → List Event
  | .ok _ => [(call.operation mount).opening c]
  | .error _ => []

/-- What is reported of a failure that a call takes for its result. -/
def probed (mount : String) : (call : Call) → Except Error call.Result → List Event
  | isEnabled, .error e => [.probeFailed mount e]
  | _, _ => []

theorem settle_events (mount : String) (call : Call) (r : Report call.Result) :
    (call.settle mount r).events = r.events ++ call.probed mount r.result := by
  cases call with
  | isEnabled =>
    obtain ⟨result, requests, events⟩ := r
    cases result with
    | error e => rfl
    | ok enabled => exact (List.append_nil events).symm
  | _ => exact (List.append_nil r.events).symm

theorem perform_result_of_receives (h : call.Receives c net mount answer r) :
    (call.perform c net mount answer).result =
      call.settled ((call.operation mount).exit.read r).result := by
  obtain ⟨token, q, rfl, hq, hnet⟩ := h
  exact perform_result_of_answered hq hnet

/-- A success that arrives comes to what its body does. -/
theorem exists_gives_of_receives {p : Payload call.Result} (hp : call.payload? mount = some p)
    (h : call.Receives c net mount answer r) (hs : r.isSuccess = true) :
    ∃ x, p.Gives r x ∧ (call.perform c net mount answer).result = call.settled x := by
  obtain ⟨absent, hexit⟩ := exit_of_payload hp
  rw [perform_result_of_receives h, hexit, Exit.read_payload_of_success hs]
  exact ⟨_, p.gives_readData hs, rfl⟩

theorem perform_events_of_receives (h : call.Receives c net mount answer r) :
    (call.perform c net mount answer).events =
      call.openings c mount answer ++ ((call.operation mount).exit.read r).events ++
        (call.operation mount).deedEvents ((call.operation mount).exit.read r).result ++
        call.probed mount ((call.operation mount).exit.read r).result := by
  obtain ⟨token, q, rfl, hq, hnet⟩ := h
  rw [perform_ok, settle_events, Operation.perform_of_answered hq hnet]
  show _ :: (Operation.conclude _ r).events ++ probed mount call (Operation.conclude _ r).result = _
  rw [Operation.conclude_events, Operation.conclude_result]
  rfl

/-- A call for which no answer arrives fails. -/
theorem perform_of_not_receives (h : ∀ r, ¬call.Receives c net mount answer r) :
    ∃ e, (call.perform c net mount answer).result = call.settled (.error e) ∧
      (call.perform c net mount answer).events =
        call.openings c mount answer ++ call.probed mount (.error e) := by
  -- Whatever stops the call, its operation reports the same: a failure behind the opening.
  suffices hstopped : ∃ e requests, call.perform c net mount answer =
      call.settle mount ⟨.error e, requests, call.openings c mount answer⟩ by
    obtain ⟨e, requests, hperform⟩ := hstopped
    exact ⟨e, by rw [hperform, settle_result], by rw [hperform, settle_events]⟩
  cases answer with
  | error e => exact ⟨e, [], perform_error call c net mount e⟩
  | ok token =>
    rw [perform_ok]
    cases hq : (call.operation mount).request c token with
    | error e => exact ⟨e, [], by rw [Operation.perform_of_request_error hq]; rfl⟩
    | ok q =>
      cases hnet : net q with
      | answered r => exact absurd ⟨token, q, rfl, hq, hnet⟩ (h r)
      | closed => exact ⟨.http, [q], by rw [Operation.perform_of_closed hq hnet]; rfl⟩
      | unreachable => exact ⟨.http, [], by rw [Operation.perform_of_unreachable hq hnet]; rfl⟩

end Call

end VaultPki
