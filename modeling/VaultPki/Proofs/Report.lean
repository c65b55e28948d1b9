import VaultPki.Report

/-!
# Going on with a report

How the parts of a report come about when one piece of work follows another: a failure ends the
work, and after a success the requests and events of both stand one behind the other.
-/

namespace VaultPki.Report

variable {α β : Type}

theorem ok_bind (a : α) (requests : List Http.Request) (events : List Event) (f : α → Report β) :
    ((⟨.ok a, requests, events⟩ : Report α) >>= f) = (f a).behind requests events := rfl

@[simp] theorem behind_result (requests : List Http.Request) (events : List Event)
    (r : Report α) : (r.behind requests events).result = r.result := rfl

@[simp] theorem behind_requests (requests : List Http.Request) (events : List Event)
    (r : Report α) : (r.behind requests events).requests = requests ++ r.requests := rfl

/-- What follows a piece of work adds no requests if it sends none itself. -/
theorem bind_requests {r : Report α} {f : α → Report β}
    (h : ∀ a, r.result = .ok a → (f a).requests = []) : (r >>= f).requests = r.requests := by
  obtain ⟨result, requests, events⟩ := r
  cases result with
  | error e => rfl
  | ok a =>
    rw [ok_bind, behind_requests, h a rfl, List.append_nil]

/-- What was reported stays so, whatever follows. -/
theorem mem_bind_events {e : Event} {r : Report α} (h : e ∈ r.events) (f : α → Report β) :
    e ∈ (r >>= f).events := by
  obtain ⟨result, requests, events⟩ := r
  cases result with
  | error _ => exact h
  | ok a => exact List.mem_append_left _ h

end VaultPki.Report
