import VaultPki.Engine.Call
import VaultPki.Proofs.Outcome
import VaultPki.Proofs.Url.Reader

/-!
# Where requests with a name go

Some calls put a name or a serial number behind the path of their endpoint. Nothing is encoded or
refused in it before the path is read as a whole, so a name can lead above its endpoint, to another
one, to another mount or out of the API. It stays where it belongs exactly if all that it passes on
its way up it goes down again, and further.
-/

namespace VaultPki

open Text.Commas (splitAt splitAt_append splitAt_of_not_mem)
open Url.Path (IsSettled Route slashed trimmedEnd)

/-- Whether a text is made of letters, digits, hyphens and underscores. -/
def IsWord (s : String) : Prop :=
  s ≠ "" ∧ s.toList.all Url.Path.isWordChar = true

namespace IsWord

variable {s : String}

theorem isSettled (h : IsWord s) : IsSettled s.toList :=
  Url.Path.isSettled_of_word h.2

private theorem dropWhile_of_not_mem {c : Char} {cs : List Char} (h : c ∉ cs) :
    cs.dropWhile (· == c) = cs := by
  cases cs with
  | nil => rfl
  | cons x cs =>
    rw [List.mem_cons, not_or] at h
    rw [List.dropWhile_cons_of_neg]
    simpa using Ne.symm h.1

theorem trimMount (h : IsWord s) : Call.trimMount s = s := by
  have hslash : '/' ∉ s.toList := h.isSettled.noSlash
  have hreversed : '/' ∉ s.toList.reverse := mt List.mem_reverse.1 hslash
  rw [Call.trimMount, Text.trimBoth, dropWhile_of_not_mem hslash, dropWhile_of_not_mem hreversed,
    List.reverse_reverse, String.ofList_toList]

theorem dropWhile_slash_append (h : IsWord s) (cs : List Char) :
    (s.toList ++ cs).dropWhile (· == '/') = s.toList ++ cs := by
  obtain ⟨hne, hword⟩ := h
  cases hs : s.toList with
  | nil => exact absurd (String.toList_eq_nil_iff.1 hs) hne
  | cons c rest =>
    have hslash : c ≠ '/' := by
      rintro rfl
      exact absurd (List.all_eq_true.1 hword '/' (hs ▸ List.mem_cons_self)) (by decide)
    rw [List.cons_append, List.dropWhile_cons_of_neg]
    simpa using hslash

end IsWord

namespace Config

/-- The path of an endpoint of the engine at a mount. -/
def endpointPath (c : Config) (mount endpoint : String) : List Char :=
  trimEndSlashes c.server.pathText ++ ("/v1/" ++ mount ++ "/" ++ endpoint).toList

/-- The segments of that path, the last one first. -/
def endpointPlace (c : Config) (mount endpoint : String) : List (List Char) :=
  (splitAt '/' (c.endpointPath mount endpoint).tail).reverse

variable {c : Config} {mount endpoint name : String}

/-- The segments of the path of an endpoint, when the server was read from a text. -/
theorem exists_endpoint_segments {text : String} (h : Url.ofText text = .ok c.server)
    (hweb : c.server.scheme = "http" ∨ c.server.scheme = "https") (hmount : IsWord mount)
    (hendpoint : IsWord endpoint) :
    ∃ own segments, c.server.path = .rooted own ∧ (∀ s ∈ segments, IsSettled s) ∧
      c.endpointPath mount endpoint = slashed segments ∧
      c.endpointPlace mount endpoint = segments.reverse := by
  obtain ⟨own, hpath, hown⟩ := Url.exists_settled_of_ofText h hweb
  have hbase : trimEndSlashes c.server.pathText = slashed (trimmedEnd own) := by
    rw [Url.pathText, hpath, Url.Path.toText_rooted,
      Url.Path.trimEndSlashes_slashed fun s hs => (hown s hs).noSlash]
  have hsettled : ∀ s ∈ trimmedEnd own ++ ["v1".toList, mount.toList], IsSettled s := by
    intro s hs
    rcases List.mem_append.1 hs with hs | hs
    · exact hown s (Url.Path.mem_of_mem_trimmedEnd hs)
    · rcases List.mem_cons.1 hs with rfl | hs
      · exact Url.Path.isSettled_of_word (by decide)
      · rw [List.mem_singleton.1 hs]
        exact hmount.isSettled
  have hfront : c.endpointPath mount endpoint =
      slashed (trimmedEnd own ++ ["v1".toList, mount.toList]) ++ '/' :: endpoint.toList := by
    rw [endpointPath, hbase, Url.Path.slashed_append]
    simp [slashed]
  refine ⟨_, trimmedEnd own ++ ["v1".toList, mount.toList] ++ [endpoint.toList], hpath, ?_, ?_, ?_⟩
  · intro s hs
    rcases List.mem_append.1 hs with hs | hs
    · exact hsettled s hs
    · rw [List.mem_singleton.1 hs]
      exact hendpoint.isSettled
  · rw [hfront, Url.Path.slashed_append]
    simp [slashed]
  · rw [endpointPlace, hfront, Url.Path.splitAt_slashed_append fun s hs => (hsettled s hs).noSlash,
      splitAt_of_not_mem hendpoint.isSettled.noSlash]

/-- A path behind that of an endpoint leads where the route of what is added goes. -/
theorem pathText_address_endpoint {text : String} (h : Url.ofText text = .ok c.server)
    (hweb : c.server.scheme = "http" ∨ c.server.scheme = "https") (hmount : IsWord mount)
    (hendpoint : IsWord endpoint) (name : String) :
    (c.address (Call.mountPath mount (endpoint ++ "/" ++ name))).pathText.toList =
      slashed ((Route.of name.toList).leadsTo (c.endpointPlace mount endpoint)).reverse := by
  obtain ⟨own, segments, hpath, hsettled, hendpointPath, hplace⟩ :=
    exists_endpoint_segments h hweb hmount hendpoint
  have htext : trimEndSlashes c.server.pathText ++ '/' :: apiSegment.toList ++ '/' ::
      (Call.mountPath mount (endpoint ++ "/" ++ name)).toList.dropWhile (· == '/') =
        slashed segments ++ '/' :: name.toList := by
    have hdrop : (Call.mountPath mount (endpoint ++ "/" ++ name)).toList.dropWhile (· == '/') =
        mount.toList ++ ('/' :: endpoint.toList ++ '/' :: name.toList) := by
      rw [Call.mountPath, hmount.trimMount, ← hmount.dropWhile_slash_append]
      simp
    rw [hdrop, ← hendpointPath, endpointPath]
    simp [apiSegment]
  rw [address, htext, Url.pathText, Url.path_withPath hweb hpath hsettled, Url.Path.toText_rooted,
    String.toList_ofList, hplace]

/-- A path behind that of an endpoint stays there exactly if the route of what is added does. -/
theorem endpointPath_prefix_iff {text : String} (h : Url.ofText text = .ok c.server)
    (hweb : c.server.scheme = "http" ∨ c.server.scheme = "https") (hmount : IsWord mount)
    (hendpoint : IsWord endpoint) (name : String) :
    c.endpointPath mount endpoint ++ ['/'] <+:
        (c.address (Call.mountPath mount (endpoint ++ "/" ++ name))).pathText.toList ↔
      (Route.of name.toList).StaysBelow (c.endpointPlace mount endpoint) := by
  obtain ⟨own, segments, -, hsettled, hendpointPath, hplace⟩ :=
    exists_endpoint_segments h hweb hmount hendpoint
  have hgoal : ∀ s ∈ ((Route.of name.toList).leadsTo segments.reverse).reverse, '/' ∉ s := by
    intro s hs
    rw [List.mem_reverse, ← Url.walk_slashed_append hsettled] at hs
    exact (Url.isSettled_of_mem_walk _ s hs).noSlash
  rw [pathText_address_endpoint h hweb hmount hendpoint, hendpointPath, hplace,
    Url.Path.slashed_slash_prefix_iff (fun s hs => (hsettled s hs).noSlash) hgoal,
    Url.Path.staysBelow_iff, ← List.reverse_suffix, List.reverse_reverse, Ne, Ne,
    List.reverse_eq_iff]

end Config

namespace Call

/-- The endpoint of a call and the name behind it. -/
def named? : Call → Option (String × String)
  | readCertificate serial => some ("cert", serial)
  | issue role _ => some ("issue", role)
  | sign role _ _ => some ("sign", role)
  | writeRole name _ | readRole name | deleteRole name => some ("roles", name)
  | _ => none

variable {call : Call} {mount endpoint name : String}

theorem operation_of_named (mount : String)
    (h : call.named? = some (endpoint, name)) :
    IsWord endpoint ∧ (call.operation mount).verb ≠ .list ∧
      (call.operation mount).path = mountPath mount (endpoint ++ "/" ++ name) := by
  unfold IsWord
  cases call <;> cases h <;> exact ⟨by decide, nofun, rfl⟩

theorem request_of_mem_requests {c : Client} {net : Http.Network} {token : String}
    {q : Http.Request} (h : q ∈ (call.perform c net mount (.ok token)).requests) :
    (call.operation mount).request c token = .ok q := by
  rw [perform_ok, settle_requests] at h
  exact Operation.request_of_mem_requests h

theorem target_of_named {c : Client} {token : String} {q : Http.Request}
    (hcall : call.named? = some (endpoint, name)) (hquery : c.config.server.query = none)
    (hq : (call.operation mount).request c token = .ok q) :
    q.target = (c.config.address (mountPath mount (endpoint ++ "/" ++ name))).pathText := by
  obtain ⟨-, hverb, hpath⟩ := operation_of_named mount hcall
  obtain ⟨headers, rfl⟩ := Client.exists_headers_of_request hq
  have hdestination : Client.destination (call.operation mount).verb
      (c.config.address (call.operation mount).path) =
        c.config.address (call.operation mount).path := by
    unfold Client.destination
    split
    · contradiction
    · rfl
  rw [hdestination, Url.target, Client.query_address, hquery, hpath]
  exact String.append_empty

/-- Requests for names without two dots between their slashes stay under the endpoint. -/
theorem request_under_endpoint_of_no_double_dot {text : String} {c : Client} {net : Http.Network}
    {token : String} {q : Http.Request} (hserver : Url.ofText text = .ok c.config.server)
    (hweb : c.IsOnWeb) (hquery : c.config.server.query = none) (hmount : IsWord mount)
    (hcall : call.named? = some (endpoint, name))
    (hname : ∀ s ∈ splitAt '/' (name.toList.map (Url.Path.unifySlash true)),
      Url.Path.isDoubleDot (Url.Path.encoded s) = false)
    (hq : q ∈ (call.perform c net mount (.ok token)).requests) :
    c.config.endpointPath mount endpoint ++ ['/'] <+: q.target.toList := by
  rw [target_of_named hcall hquery (request_of_mem_requests hq)]
  apply (Config.endpointPath_prefix_iff hserver hweb hmount
    (operation_of_named mount hcall).1 name).2
  exact Route.staysBelow_of_no_double_dot _ hname

/-- A request with a name goes where the route of the name leads from the endpoint. It stays under
the endpoint exactly if that route does. -/
theorem request_under_endpoint_iff {text : String} {c : Client} (call : Call)
    {mount endpoint name : String} (net : Http.Network) (token : String)
    (hserver : Url.ofText text = .ok c.config.server) (hweb : c.IsOnWeb)
    (hquery : c.config.server.query = none) (hmount : IsWord mount)
    (hcall : call.named? = some (endpoint, name)) :
    ∀ q ∈ (call.perform c net mount (.ok token)).requests,
      q.target.toList = slashed
        ((Route.of name.toList).leadsTo (c.config.endpointPlace mount endpoint)).reverse ∧
      (c.config.endpointPath mount endpoint ++ ['/'] <+: q.target.toList ↔
        (Route.of name.toList).StaysBelow (c.config.endpointPlace mount endpoint)) := by
  intro q hq
  obtain ⟨hendpoint, -, -⟩ := operation_of_named mount hcall
  rw [target_of_named hcall hquery (request_of_mem_requests hq)]
  exact ⟨Config.pathText_address_endpoint hserver hweb hmount hendpoint name,
    Config.endpointPath_prefix_iff hserver hweb hmount hendpoint name⟩

/-- A client of a server whose own path ends in a slash. Its host is an address: the tables that
domain names are folded by would make its text long to evaluate. -/
def loopback : Client where
  config := { Config.standard with server := {
    scheme := "http"
    username := ""
    password := none
    host := some (.ipv6 [0, 0, 0, 0, 0, 0, 0, 1])
    port := some 8200
    path := .rooted ["vault", ""]
    query := none
    fragment := none } }
  defaults := Client.defaultHeaders []

theorem ofText_loopback : Url.ofText "http://[::1]:8200/vault/" = .ok loopback.config.server := by
  cbv

theorem loopback_canAsk : loopback.CanAsk "s.token" where
  validToken := by decide
  validNamespace := nofun
  onWeb := .inl rfl

theorem exists_request_of_closed (call : Call) (mount : String) :
    ∃ q, (call.perform loopback (fun _ => .closed) mount (.ok "s.token")).requests = [q] := by
  obtain ⟨q, hq⟩ := (call.operation mount).exists_request loopback_canAsk
  refine ⟨q, ?_⟩
  rw [perform_ok, settle_requests, Operation.perform_requests _ hq]

/-- A name that goes up may come back: this one stands for the role under its last segment. -/
theorem readRole_comes_back :
    Url.ofText "http://[::1]:8200/vault/" = .ok loopback.config.server ∧ loopback.IsOnWeb ∧
      loopback.config.server.query = none ∧ IsWord "pki" ∧
      (readRole "../roles/web").named? = some ("roles", "../roles/web") ∧
      ∃ q, ((readRole "../roles/web").perform loopback (fun _ => .closed) "pki"
          (.ok "s.token")).requests = [q] ∧
        loopback.config.endpointPath "pki" "roles" ++ ['/'] <+: q.target.toList := by
  have hmount : IsWord "pki" := by
    unfold IsWord
    decide
  obtain ⟨q, hq⟩ := exists_request_of_closed (readRole "../roles/web") "pki"
  have hstays : (Route.of "../roles/web".toList).StaysBelow
      (loopback.config.endpointPlace "pki" "roles") := by
    unfold Route.StaysBelow
    decide
  have htarget := request_under_endpoint_iff (readRole "../roles/web") (fun _ => .closed) "s.token"
    ofText_loopback loopback_canAsk.onWeb rfl hmount rfl q (hq ▸ List.mem_singleton_self q)
  exact ⟨ofText_loopback, loopback_canAsk.onWeb, rfl, hmount, rfl, q, hq, htarget.2.2 hstays⟩

/-- A name that leaves the endpoint, the mount and the engine: deleting this role disables the
mount. -/
theorem deleteRole_leaves_mount :
    Url.ofText "http://[::1]:8200/vault/" = .ok loopback.config.server ∧
      ∃ q, ((deleteRole "../../sys/mounts/pki").perform loopback (fun _ => .closed) "pki"
          (.ok "s.token")).requests = [q] ∧
        q.method = .delete ∧ q.target = "/vault/v1/sys/mounts/pki" ∧
        ¬loopback.config.endpointPath "pki" "roles" ++ ['/'] <+: q.target.toList := by
  obtain ⟨q, hq⟩ := exists_request_of_closed (deleteRole "../../sys/mounts/pki") "pki"
  have hrequest := request_of_mem_requests (hq ▸ List.mem_singleton_self q)
  have htarget : q.target = "/vault/v1/sys/mounts/pki" := by
    rw [target_of_named rfl rfl hrequest]
    decide
  obtain ⟨headers, hfields⟩ := Client.exists_headers_of_request hrequest
  refine ⟨ofText_loopback, q, hq, by rw [hfields]; rfl, htarget, ?_⟩
  rw [htarget]
  decide

end Call

end VaultPki
