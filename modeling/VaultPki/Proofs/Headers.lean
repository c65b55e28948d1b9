import VaultPki.Proofs.Event
import VaultPki.Proofs.Http.Header
import VaultPki.Proofs.Request
import VaultPki.Proofs.Text.Ascii

/-!
# The headers of a request

Three layers make the headers of a request: what the request sets itself, what the configuration
adds, and what is built in. Each gives way to those in front of it, and of what the configuration
adds under one name the last valid pair counts. The names are all in lower case, so no spelling of
a name gets past that.
-/

namespace VaultPki

open Http.Headers (named named_append named_eq_nil named_withDefaults named_withDefaults_of_eq_nil
  lookup_set mem_withDefaults mem_set)

namespace Client

variable {config : Config} {c : Client} {token name : String} {verb : Verb} {u : Url}
  {body : Option Json} {q : Http.Request} {added : List (String × String)}

/-! ## Defaults -/

/-- The value of the last valid pair with a name in lower case. -/
def lastAdded? (name : String) (added : List (String × String)) : Option String :=
  (added.filter fun h => isHeader h && Text.Ascii.lower h.1 == name).getLast?.map Prod.snd

/-- The value that a header has unless something else is said. -/
def builtIn? (name : String) : Option String :=
  if name = "user-agent" then some "vault-pki-client/0.1.0"
  else if name = "accept" then some "*/*"
  else none

theorem lookup_builtInHeaders (name : String) : builtInHeaders.lookup name = builtIn? name := by
  rw [builtInHeaders, Http.Headers.lookup_cons, Http.Headers.lookup_cons, builtIn?]
  by_cases hagent : name = "user-agent"
  · subst hagent
    rfl
  · rw [if_neg hagent, if_neg hagent]
    rfl

private theorem lookup_foldl_set (pairs : List (String × String)) (hs : Http.Headers) :
    (pairs.foldl (fun hs h => Http.Headers.set (Text.Ascii.lower h.1) h.2 hs) hs).lookup name =
      ((pairs.filter fun h => Text.Ascii.lower h.1 == name).getLast?.map Prod.snd).or
        (hs.lookup name) := by
  induction pairs generalizing hs with
  | nil => rfl
  | cons h pairs ih =>
    rw [List.foldl_cons, ih, lookup_set]
    by_cases hname : Text.Ascii.lower h.1 = name
    · rw [if_pos hname.symm, List.filter_cons_of_pos (by simpa using hname), List.getLast?_cons]
      cases (pairs.filter fun h => Text.Ascii.lower h.1 == name).getLast? <;> rfl
    · rw [if_neg (Ne.symm hname), List.filter_cons_of_neg (by simpa using hname)]

/-- A default is the last valid pair of its name, or built in. -/
theorem lookup_defaultHeaders (name : String) (added : List (String × String)) :
    (defaultHeaders added).lookup name = (lastAdded? name added).or (builtIn? name) := by
  rw [defaultHeaders, lookup_foldl_set, List.filter_filter, lookup_builtInHeaders, lastAdded?]
  simp only [Bool.and_comm]

/-- What is true of the built-in headers and of the valid pairs, with their names in lower case, is
true of all defaults. -/
theorem forall_mem_defaultHeaders {P : String × String → Prop}
    (hbuiltIn : ∀ h ∈ builtInHeaders, P h)
    (hadded : ∀ h ∈ added, isHeader h = true → P (Text.Ascii.lower h.1, h.2)) :
    ∀ h ∈ defaultHeaders added, P h := by
  have hpairs : ∀ pairs : List (String × String),
      (∀ h ∈ pairs, P (Text.Ascii.lower h.1, h.2)) → ∀ hs : Http.Headers, (∀ h ∈ hs, P h) →
        ∀ h ∈ pairs.foldl (fun hs h => Http.Headers.set (Text.Ascii.lower h.1) h.2 hs) hs, P h := by
    intro pairs
    induction pairs with
    | nil => exact fun _ hs hhs => hhs
    | cons x pairs ih =>
      intro hp hs hhs
      obtain ⟨hx, hrest⟩ := List.forall_mem_cons.1 hp
      apply ih hrest
      intro h hmem
      rcases mem_set hmem with rfl | hmem
      · exact hx
      · exact hhs h hmem
  apply hpairs _ _ _ hbuiltIn
  intro h hmem
  obtain ⟨hmem, hvalid⟩ := List.mem_filter.1 hmem
  exact hadded h hmem hvalid

/-! ## Clients -/

theorem ofConfig_of_checks (htrust : checkTrust config.trust = .ok ())
    (hidentity : checkIdentity config.identity = .ok ()) :
    ofConfig config =
      ⟨.ok ⟨config, defaultHeaders config.headers⟩, [], ignored config.headers⟩ := by
  unfold ofConfig
  rw [htrust, hidentity]
  show Report.mk _ _ (ignored config.headers ++ []) = _
  rw [List.append_nil]
  rfl

theorem checks_of_ofConfig (h : (ofConfig config).result = .ok c) :
    checkTrust config.trust = .ok () ∧ checkIdentity config.identity = .ok () := by
  unfold ofConfig at h
  cases htrust : checkTrust config.trust with
  | error e =>
    rw [htrust] at h
    cases h
  | ok _ =>
    cases hidentity : checkIdentity config.identity with
    | error e =>
      rw [htrust, hidentity] at h
      cases h
    | ok _ => exact ⟨rfl, rfl⟩

theorem eq_of_ofConfig (h : (ofConfig config).result = .ok c) :
    c = ⟨config, defaultHeaders config.headers⟩ := by
  obtain ⟨htrust, hidentity⟩ := checks_of_ofConfig h
  rw [ofConfig_of_checks htrust hidentity] at h
  cases h
  rfl

/-- A client is made with the valid pairs of a configuration alone in the same way. -/
theorem ofConfig_valid_headers (h : (ofConfig config).result = .ok c) :
    ofConfig { config with headers := config.headers.filter isHeader } =
      ⟨.ok ⟨{ config with headers := config.headers.filter isHeader }, c.defaults⟩, [], []⟩ := by
  obtain ⟨htrust, hidentity⟩ := checks_of_ofConfig h
  have hvalid := @ofConfig_of_checks
    { config with headers := config.headers.filter isHeader } htrust hidentity
  have hdefaults : defaultHeaders (config.headers.filter isHeader) =
      defaultHeaders config.headers := by
    rw [defaultHeaders, defaultHeaders, List.filter_filter]
    simp only [Bool.and_self]
  have hignored : ignored (config.headers.filter isHeader) = [] := by
    rw [ignored, List.filter_filter]
    simp
  rw [eq_of_ofConfig h, hvalid, hdefaults, hignored]

theorem warnings_of_ofConfig (h : (ofConfig config).result = .ok c) :
    (ofConfig config).events.map Event.line =
      (config.headers.filter fun h => !isHeader h).map fun h =>
        "WARN Ignoring invalid additional header '" ++ h.1 ++ "'" := by
  obtain ⟨htrust, hidentity⟩ := checks_of_ofConfig h
  rw [ofConfig_of_checks htrust hidentity, ignored, List.map_map]
  exact List.map_congr_left fun h _ => Event.line_ignoredHeader h.1

/-! ## Requests -/

theorem authorization_eq_nil (huser : u.username = "") (hpassword : u.password = none) :
    authorization u = [] := by
  have hplain : plainText? "" = some "" := by cbv
  rw [authorization, huser, hpassword, hplain]
  rfl

/-- What a request sets itself, when the address names no user. -/
def ownHeaders (config : Config) (token : String) (body : Option Json) : Http.Headers :=
  (tokenHeader, token) :: (config.serverNamespace.map fun s => (namespaceHeader, s)).toList ++
    if body.isSome then [("content-type", "application/json")] else []

theorem mem_ownHeaders {h : String × String} (hmem : h ∈ ownHeaders config token body) :
    h = (tokenHeader, token) ∨
      (∃ s, config.serverNamespace = some s ∧ h = (namespaceHeader, s)) ∨
      body.isSome = true ∧ h = ("content-type", "application/json") := by
  rw [ownHeaders, List.cons_append, List.mem_cons, List.mem_append] at hmem
  rcases hmem with rfl | hmem | hmem
  · exact .inl rfl
  · obtain ⟨s, hs, rfl⟩ := Option.map_eq_some_iff.1 (Option.mem_toList.1 hmem)
    exact .inr (.inl ⟨s, hs, rfl⟩)
  · obtain ⟨hbody, hmem⟩ := List.mem_ite_nil_right.1 hmem
    exact .inr (.inr ⟨hbody, List.mem_singleton.1 hmem⟩)

theorem headers_of_request {path : String} (huser : c.config.server.username = "")
    (hpassword : c.config.server.password = none)
    (h : c.request verb (c.config.address path) token body = .ok q) :
    q.body = body ∧ q.headers = (ownHeaders c.config token body).withDefaults c.defaults := by
  have hask := canAsk_of_request h
  have hweb : (c.config.address path).scheme = "http" ∨
      (c.config.address path).scheme = "https" := by
    rw [scheme_address]
    exact hask.onWeb
  have hauthorization : authorization (c.config.address path) = [] := by
    obtain ⟨p, hp⟩ := c.address_eq path
    rw [hp]
    exact authorization_eq_nil huser hpassword
  rw [request_of_authHeaders_ok (authHeaders_of_valid hask.validToken hask.validNamespace) hweb,
    hauthorization] at h
  cases h
  exact ⟨rfl, rfl⟩

/-- The headers that a request to the server of a configuration has, with the token of its call:
its own under the names that it sets, and under every other name the last valid pair that the
configuration adds, or else what is built in. -/
structure HasHeaders (config : Config) (token : String) (q : Http.Request) : Prop where
  token : named tokenHeader q.headers = [(tokenHeader, token)]
  serverNamespace : ∀ s, config.serverNamespace = some s →
    named namespaceHeader q.headers = [(namespaceHeader, s)]
  content : q.body.isSome = true →
    named "content-type" q.headers = [("content-type", "application/json")]
  others : ∀ name, name ≠ tokenHeader →
    (name = namespaceHeader → config.serverNamespace = none) →
    (name = "content-type" → q.body = none) →
      named name q.headers =
        (((lastAdded? name config.headers).or (builtIn? name)).map fun v => (name, v)).toList
  lowerCase : ∀ h ∈ q.headers, Text.Ascii.lower h.1 = h.1

theorem hasHeaders {path : String} (hclient : c = ⟨config, defaultHeaders config.headers⟩)
    (huser : config.server.username = "") (hpassword : config.server.password = none)
    (h : c.request verb (c.config.address path) token body = .ok q) :
    HasHeaders config token q := by
  subst hclient
  obtain ⟨rfl, hheaders⟩ := headers_of_request huser hpassword h
  -- What the request says under a name of its own is all that is said under it.
  have hown {name value : String}
      (hname : named name (ownHeaders config token q.body) = [(name, value)]) :
      named name q.headers = [(name, value)] := by
    rw [hheaders, named_withDefaults (by rw [hname]; exact List.cons_ne_nil _ _), hname]
  refine ⟨hown ?_, fun s hs => hown ?_, fun hbody => hown ?_, fun name htoken hns hcontent => ?_,
    fun x hx => ?_⟩
  · rw [ownHeaders]
    cases config.serverNamespace <;> cases q.body <;> rfl
  · rw [ownHeaders, hs]
    cases q.body <;> rfl
  · rw [ownHeaders, if_pos hbody]
    cases config.serverNamespace <;> rfl
  · have hnone : named name (ownHeaders config token q.body) = [] := by
      apply named_eq_nil
      rintro x hx rfl
      rcases mem_ownHeaders hx with rfl | ⟨s, hs, rfl⟩ | ⟨hbody, rfl⟩
      · exact htoken rfl
      · rw [hns rfl] at hs
        cases hs
      · rw [hcontent rfl] at hbody
        cases hbody
    rw [hheaders, named_withDefaults_of_eq_nil hnone, lookup_defaultHeaders]
  · have hown : ∀ h ∈ ownHeaders config token q.body, Text.Ascii.lower h.1 = h.1 := by
      intro h hmem
      rcases mem_ownHeaders hmem with rfl | ⟨s, -, rfl⟩ | ⟨-, rfl⟩
      · show Text.Ascii.lower tokenHeader = tokenHeader
        decide
      · show Text.Ascii.lower namespaceHeader = namespaceHeader
        decide
      · show Text.Ascii.lower "content-type" = "content-type"
        decide
    have hdefault : ∀ h ∈ defaultHeaders config.headers, Text.Ascii.lower h.1 = h.1 :=
      forall_mem_defaultHeaders (by decide) fun x _ _ => Text.Ascii.lower_lower x.1
    rw [hheaders] at hx
    exact (mem_withDefaults hx).elim (hown x) (hdefault x)

/-- Whatever a configuration adds, every request of a client has the token of its own call and the
namespace of the configuration once each, and the type of its content. What is added counts for the
other names, if it is valid; of what is not there is no trace but a warning for each pair. -/
theorem headers_of_steps (hclient : (ofConfig config).result = .ok c)
    (huser : config.server.username = "") (hpassword : config.server.password = none) :
    (∀ (step : Step) (net : Http.Network) (tokens : TokenSource),
      ∀ q ∈ (step.perform c net tokens).1.requests,
        ∃ token, step.token? tokens = some token ∧ HasHeaders config token q) ∧
    (ofConfig config).events.map Event.line =
      (config.headers.filter fun h => !isHeader h).map (fun h =>
        "WARN Ignoring invalid additional header '" ++ h.1 ++ "'") ∧
    ofConfig { config with headers := config.headers.filter isHeader } =
      ⟨.ok ⟨{ config with headers := config.headers.filter isHeader }, c.defaults⟩, [], []⟩ := by
  refine ⟨?_, warnings_of_ofConfig hclient, ofConfig_valid_headers hclient⟩
  intro step net tokens q hq
  obtain ⟨verb, path, token, body, -, htoken, hrequest⟩ := Step.exists_request_of_mem hq
  exact ⟨token, htoken, hasHeaders (eq_of_ofConfig hclient) huser hpassword hrequest⟩

/-- A configuration that adds a token, one header twice, and something that is no header. -/
def meddling : Config :=
  { Config.standard with
    headers := [("X-Vault-Token", "forged"), ("Accept", "text/html"), ("no name", "v"),
      ("ACCEPT", "text/plain")] }

/-- The token is that of the call, and the last header of the two counts. -/
theorem readRole_of_meddling :
    (ofConfig meddling).result = .ok ⟨meddling, defaultHeaders meddling.headers⟩ ∧
      meddling.server.username = "" ∧ meddling.server.password = none ∧
      ∃ q, ((Step.call "pki" (.readRole "web")).perform
          ⟨meddling, defaultHeaders meddling.headers⟩ (fun _ => .closed)
          (.fixed "s.token")).1.requests = [q] ∧
        named "x-vault-token" q.headers = [("x-vault-token", "s.token")] ∧
        named "accept" q.headers = [("accept", "text/plain")] ∧
        (ofConfig meddling).events.map Event.line =
          ["WARN Ignoring invalid additional header 'no name'"] := by
  have hask : CanAsk ⟨meddling, defaultHeaders meddling.headers⟩ "s.token" :=
    ⟨by decide, nofun, .inr rfl⟩
  obtain ⟨q, hq⟩ := ((Call.readRole "web").operation "pki").exists_request hask
  have hsent : ((Step.call "pki" (.readRole "web")).perform
      ⟨meddling, defaultHeaders meddling.headers⟩ (fun _ => .closed)
      (.fixed "s.token")).1.requests = [q] := by
    show ((Call.readRole "web").perform _ _ "pki" (.ok "s.token")).requests = [q]
    rw [Call.perform_ok, Call.settle_requests, Operation.perform_requests _ hq]
  have hclient : (ofConfig meddling).result = .ok ⟨meddling, defaultHeaders meddling.headers⟩ := rfl
  obtain ⟨hsteps, hwarnings, -⟩ := headers_of_steps hclient rfl rfl
  obtain ⟨token, htoken, hheaders⟩ := hsteps _ _ _ q (hsent ▸ List.mem_singleton_self q)
  cases htoken
  refine ⟨hclient, rfl, rfl, q, hsent, hheaders.token, ?_, ?_⟩
  · exact hheaders.others "accept" (by decide) (fun h => absurd h (by decide))
      fun h => absurd h (by decide)
  · rw [hwarnings]
    decide

end Client

end VaultPki
