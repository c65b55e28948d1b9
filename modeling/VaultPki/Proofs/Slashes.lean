import VaultPki.Proofs.Endpoint
import VaultPki.Proofs.Request
import VaultPki.Proofs.Session

/-!
# Slashes that do not matter

Mounts are trimmed, slashes in front of a path are dropped, and so are those at the end of the path
of the server. So a session, in which every call that can ask makes one request, sends the same
requests wherever slashes are added to these. The path of the server is kept as it is in front of
what is asked for: it was encoded when it was read, and that changes nothing when it is read again.
-/

namespace VaultPki

open Url.Path (IsPlain IsSettled slashed trimmedEnd)
open Url.Percent (encode pathSet)

/-- A text of slashes. -/
def slashes (n : Nat) : String :=
  String.ofList (List.replicate n '/')

theorem isSlash_of_mem_slashes {n : Nat} {c : Char} (h : c ∈ (slashes n).toList) :
    (c == '/') = true := by
  rw [slashes, String.toList_ofList] at h
  rw [beq_iff_eq, List.eq_of_mem_replicate h]

/-- What is trimmed off may be added without any effect. -/
theorem Text.trimBoth_append {p : Char → Bool} {front back : String}
    (hfront : ∀ c ∈ front.toList, p c = true) (hback : ∀ c ∈ back.toList, p c = true)
    (s : String) : trimBoth p (front ++ s ++ back) = trimBoth p s := by
  have hreversed : ∀ c ∈ back.toList.reverse, p c = true :=
    fun c hc => hback c (List.mem_reverse.1 hc)
  have hdrop : (s.toList ++ back.toList).dropWhile p =
      if (s.toList.dropWhile p).isEmpty then [] else s.toList.dropWhile p ++ back.toList := by
    rw [List.dropWhile_append, List.dropWhile_eq_nil_iff.2 hback]
  rw [trimBoth, trimBoth, String.toList_append, String.toList_append, List.append_assoc,
    List.dropWhile_append_of_pos hfront, hdrop]
  split
  · next hempty => rw [List.isEmpty_iff.1 hempty]
  · rw [List.reverse_append, List.dropWhile_append_of_pos hreversed]

/-! ## The server -/

namespace Url

variable {u : Url} {text : String}

/-- The address with slashes at the end of its path. -/
def addSlashes (u : Url) (n : Nat) : Url :=
  u.withPath (u.pathText ++ slashes n).toList

/-- A path that is set takes the place of the one before. -/
theorem withPath_withPath {own : List String} (h : u.path = .rooted own) (before text : List Char) :
    (u.withPath before).withPath text = u.withPath text := by
  obtain ⟨segments, hsegments⟩ : ∃ segments, rootedPath u.scheme before = .rooted segments := by
    simp only [rootedPath]
    split <;> exact ⟨_, rfl⟩
  rw [withPath_of_rooted h, withPath_of_rooted h, hsegments, withPath_of_rooted rfl]

/-- A slash at the end of a path is an empty segment more. -/
theorem Path.slashed_replicate_nil (n : Nat) :
    slashed (List.replicate n []) = List.replicate n '/' := by
  induction n with
  | zero => rfl
  | succ n ih =>
    rw [List.replicate_succ, slashed_cons, ih]
    rfl

theorem pathText_addSlashes (h : ofText text = .ok u)
    (hweb : u.scheme = "http" ∨ u.scheme = "https") (n : Nat) :
    (u.addSlashes n).pathText = u.pathText ++ slashes n := by
  obtain ⟨segments, hne, hsettled, hpath⟩ := exists_segments_of_ofText h hweb
  have hslashed : (u.pathText ++ slashes n).toList = slashed (segments ++ List.replicate n []) := by
    rw [pathText, hpath, Path.toText_rooted, String.toList_append, String.toList_ofList, slashes,
      String.toList_ofList, Path.slashed_append, Path.slashed_replicate_nil]
  have hsettled : ∀ s ∈ segments ++ List.replicate n [], IsSettled s := by
    rw [List.forall_mem_append]
    refine ⟨hsettled, fun s hs => ?_⟩
    rw [List.eq_of_mem_replicate hs]
    exact Path.isSettled_nil
  rw [addSlashes, withPath_of_rooted hpath, hslashed,
    rootedPath_slashed hweb (List.append_ne_nil_of_left_ne_nil hne _) hsettled, ← String.toList_inj,
    hslashed]
  exact congrArg String.toList (Path.toText_rooted _) |>.trans String.toList_ofList

end Url

theorem Config.trimEndSlashes_append (s : String) (n : Nat) :
    trimEndSlashes (s ++ slashes n) = trimEndSlashes s := by
  rw [trimEndSlashes, String.toList_append, List.reverse_append,
    List.dropWhile_append_of_pos fun c hc => isSlash_of_mem_slashes (List.mem_reverse.1 hc)]
  rfl

namespace Client

variable {c : Client} {text : String}

/-- The client of a server with slashes at the end of its path. -/
def addSlashes (c : Client) (n : Nat) : Client :=
  { c with config := { c.config with server := c.config.server.addSlashes n } }

theorem address_addSlashes (h : Url.ofText text = .ok c.config.server) (hweb : c.IsOnWeb) (n : Nat)
    (path : String) : (c.addSlashes n).config.address path = c.config.address path := by
  obtain ⟨own, hpath, -⟩ := Url.exists_settled_of_ofText h hweb
  have htrim : Config.trimEndSlashes (c.addSlashes n).config.server.pathText =
      Config.trimEndSlashes c.config.server.pathText := by
    rw [← Config.trimEndSlashes_append c.config.server.pathText n,
      ← Url.pathText_addSlashes h hweb n]
    rfl
  have hset (text : List Char) :
      (c.addSlashes n).config.server.withPath text = c.config.server.withPath text := by
    show (c.config.server.addSlashes n).withPath text = _
    rw [Url.addSlashes, Url.withPath_withPath hpath]
  rw [Config.address, Config.address, htrim, hset]

theorem request_addSlashes (h : Url.ofText text = .ok c.config.server) (hweb : c.IsOnWeb) (n : Nat)
    (verb : Verb) (path token : String) (body : Option Json) :
    (c.addSlashes n).request verb ((c.addSlashes n).config.address path) token body =
      c.request verb (c.config.address path) token body := by
  rw [address_addSlashes h hweb]
  rfl

/-- A request that can be made is sent, once, if there is a connection. -/
theorem exists_sent {token : String} (hask : c.CanAsk token) (net : Http.Network) (verb : Verb)
    (path : String) (body : Option Json) :
    ∃ q, c.request verb (c.config.address path) token body = .ok q ∧
      (net q = .unreachable → (c.send net token verb path body).requests = []) ∧
      (net q ≠ .unreachable → (c.send net token verb path body).requests = [q]) := by
  obtain ⟨q, hq⟩ := exists_request verb path body hask
  refine ⟨q, hq, ?_⟩
  rw [send_of_request hq, Report.behind_requests, List.nil_append, deliver]
  cases net q with
  | unreachable => exact ⟨fun _ => rfl, fun h => absurd rfl h⟩
  | answered r | closed =>
    refine ⟨fun h => ?_, fun _ => rfl⟩
    cases h

/-- Where the same request is made, the same is sent. -/
theorem send_requests_congr {c' : Client} {net : Http.Network} {token path path' : String}
    {verb : Verb} {body : Option Json}
    (h : c'.request verb (c'.config.address path') token body =
      c.request verb (c.config.address path) token body) :
    (c'.send net token verb path' body).requests = (c.send net token verb path body).requests := by
  cases hq : c.request verb (c.config.address path) token body with
  | error e =>
    rw [hq] at h
    rw [send, send, h, hq]
    rfl
  | ok q =>
    rw [send_of_request hq, send_of_request (h.trans hq)]
    rfl

end Client

/-! ## Mounts and paths -/

namespace Call

variable {c c' : Client} {net : Http.Network} {mount mount' token : String}

theorem trimMount_addSlashes (before after : Nat) (mount : String) :
    trimMount (slashes before ++ mount ++ slashes after) = trimMount mount :=
  Text.trimBoth_append (fun _ => isSlash_of_mem_slashes) (fun _ => isSlash_of_mem_slashes) mount

/-- Of a mount an operation keeps what is left when it is trimmed, but for what it says of it. -/
theorem operation_congr (call : Call) (h : trimMount mount' = trimMount mount) :
    (call.operation mount').verb = (call.operation mount).verb ∧
      (call.operation mount').path = (call.operation mount).path ∧
      (call.operation mount').body = (call.operation mount).body := by
  cases call <;>
    simp only [operation, readingFixed, listingRoles, reading, asking, writing, deleting, noting,
      mountPath, systemPath, h, and_self]

theorem perform_requests (call : Call) (c : Client) (net : Http.Network) (mount token : String) :
    (call.perform c net mount (.ok token)).requests =
      (c.send net token (call.operation mount).verb (call.operation mount).path
        (call.operation mount).body).requests := by
  rw [perform_ok, settle_requests, Operation.perform_eq_send_bind, Report.bind_requests]
  exact fun r _ => Operation.conclude_requests _ r

end Call

namespace RawCall

def path : RawCall → String
  | read path | list path | write path _ | writeOnly path _ _ | delete path _ => path

def body : RawCall → Option Json
  | read _ | list _ | delete _ _ => none
  | write _ body | writeOnly _ body _ => some body

/-- The call with slashes in front of its path. -/
def addSlashes (n : Nat) : RawCall → RawCall
  | read path => .read (slashes n ++ path)
  | list path => .list (slashes n ++ path)
  | write path body => .write (slashes n ++ path) body
  | writeOnly path body expected => .writeOnly (slashes n ++ path) body expected
  | delete path expected => .delete (slashes n ++ path) expected

theorem perform_requests (call : RawCall) (c : Client) (net : Http.Network) (token : String) :
    (call.perform c net token).requests =
      (c.send net token call.verb call.path call.body).requests := by
  cases call with
  | read _ | list _ | write _ _ =>
    exact Report.bind_requests fun r _ => Answer.readEnvelope_requests _ r
  | writeOnly _ _ expected | delete _ expected =>
    exact Report.bind_requests fun r _ => Answer.confirm_requests expected r

theorem addSlashes_eq (call : RawCall) (n : Nat) :
    (call.addSlashes n).verb = call.verb ∧ (call.addSlashes n).path = slashes n ++ call.path ∧
      (call.addSlashes n).body = call.body := by
  cases call <;> exact ⟨rfl, rfl, rfl⟩

end RawCall

theorem Config.address_addSlashes (c : Config) (n : Nat) (path : String) :
    c.address (slashes n ++ path) = c.address path := by
  rw [address, address, String.toList_append,
    List.dropWhile_append_of_pos fun _ => isSlash_of_mem_slashes]

/-! ## Sessions -/

/-- What is asked of a server: what to do with a path, and the body that goes with it. -/
structure Question where
  verb : Verb
  path : String
  body : Option Json

namespace Step

/-- The question of a step, if it asks one. -/
def question? : Step → Option Question
  | call mount c =>
    some ⟨(c.operation mount).verb, (c.operation mount).path, (c.operation mount).body⟩
  | raw _ c => some ⟨c.verb, c.path, c.body⟩
  | bind _ => none

/-- A step with a token that can be used asks its question once, if there is a connection. -/
theorem exists_sent {s : Step} {c : Client} {tokens : TokenSource} {token : String}
    (htoken : s.token? tokens = some token) (hask : c.CanAsk token) (net : Http.Network) :
    ∃ question q, s.question? = some question ∧
      c.request question.verb (c.config.address question.path) token question.body = .ok q ∧
      (net q = .unreachable → (s.perform c net tokens).1.requests = []) ∧
      (net q ≠ .unreachable → (s.perform c net tokens).1.requests = [q]) := by
  cases s with
  | call mount call =>
    have hanswer : tokens.next.1 = .ok token := by
      rw [token?] at htoken
      cases h : tokens.next.1 with
      | error e =>
        rw [h] at htoken
        cases htoken
      | ok t =>
        rw [h] at htoken
        cases htoken
        rfl
    obtain ⟨q, hq, hsent⟩ := Client.exists_sent hask net (call.operation mount).verb
      (call.operation mount).path (call.operation mount).body
    refine ⟨_, q, rfl, hq, ?_⟩
    show (net q = .unreachable → (call.perform c net mount tokens.next.1).requests = []) ∧
      (net q ≠ .unreachable → (call.perform c net mount tokens.next.1).requests = [q])
    rwa [hanswer, Call.perform_requests]
  | raw t call =>
    cases htoken
    obtain ⟨q, hq, hsent⟩ := Client.exists_sent hask net call.verb call.path call.body
    refine ⟨_, q, rfl, hq, ?_⟩
    rwa [← RawCall.perform_requests] at hsent
  | bind mount => cases htoken

end Step

/-- Whether a step is another one with slashes added around the mount or in front of the path. -/
inductive Step.AddsSlashes : Step → Step → Prop
  | call (before after : Nat) (mount : String) (c : Call) :
    AddsSlashes (.call mount c) (.call (slashes before ++ mount ++ slashes after) c)
  | raw (before : Nat) (token : String) (c : RawCall) :
    AddsSlashes (.raw token c) (.raw token (c.addSlashes before))
  | bind (before after : Nat) (mount : String) :
    AddsSlashes (.bind mount) (.bind (slashes before ++ mount ++ slashes after))

namespace Client

variable {c : Client} {text : String}

theorem requests_perform_addSlashes {s s' : Step} (hs : s.AddsSlashes s')
    (h : Url.ofText text = .ok c.config.server) (hweb : c.IsOnWeb) (n : Nat) (net : Http.Network)
    (tokens : TokenSource) :
    (s'.perform (c.addSlashes n) net tokens).1.requests = (s.perform c net tokens).1.requests ∧
      (s'.perform (c.addSlashes n) net tokens).2 = (s.perform c net tokens).2 := by
  cases hs with
  | call before after mount call =>
    refine ⟨?_, rfl⟩
    show (call.perform _ net _ tokens.next.1).requests =
      (call.perform c net mount tokens.next.1).requests
    cases tokens.next.1 with
    | error e =>
      rw [Call.perform_error, Call.perform_error, Call.settle_requests, Call.settle_requests]
    | ok token =>
      obtain ⟨hverb, hpath, hbody⟩ :=
        call.operation_congr (Call.trimMount_addSlashes before after mount)
      rw [Call.perform_requests, Call.perform_requests, hverb, hpath, hbody]
      exact send_requests_congr (request_addSlashes h hweb n _ _ token _)
  | raw before token call =>
    refine ⟨?_, rfl⟩
    show ((call.addSlashes before).perform _ net token).requests =
      (call.perform c net token).requests
    obtain ⟨hverb, hpath, hbody⟩ := call.addSlashes_eq before
    rw [RawCall.perform_requests, RawCall.perform_requests, hverb, hpath, hbody]
    apply send_requests_congr
    rw [request_addSlashes h hweb, Config.address_addSlashes]
  | bind before after mount => exact ⟨rfl, rfl⟩

theorem requests_run_addSlashes {steps steps' : List (Step × Http.Network)}
    (hsteps : List.Forall₂ (fun s s' => s.1.AddsSlashes s'.1 ∧ s'.2 = s.2) steps steps')
    (h : Url.ofText text = .ok c.config.server) (hweb : c.IsOnWeb) (n : Nat)
    (tokens : TokenSource) :
    (Session.run (c.addSlashes n) tokens steps').map (fun e => e.report.requests) =
      (Session.run c tokens steps).map fun e => e.report.requests := by
  -- The source is general: a step leaves the same of it with the slashes and without them.
  induction hsteps generalizing tokens with
  | nil => rfl
  | @cons s s' _ _ hs _ ih =>
    obtain ⟨s, net⟩ := s
    obtain ⟨s', net'⟩ := s'
    obtain ⟨hs, rfl⟩ := hs
    obtain ⟨hrequests, htokens⟩ := requests_perform_addSlashes hs h hweb n net' tokens
    simp only [Session.run, List.map_cons, hrequests, htokens, ih]

end Client

/-! ## The path of the server -/

theorem Url.Path.IsPlain.of_slash_cons {cs : List Char} (h : IsPlain ('/' :: cs)) :
    IsPlain cs where
  noPercent := mt (List.mem_cons_of_mem _) h.noPercent
  noBackslash := mt (List.mem_cons_of_mem _) h.noBackslash
  noTab := mt (List.mem_cons_of_mem _) h.noTab
  noLineFeed := mt (List.mem_cons_of_mem _) h.noLineFeed
  noReturn := mt (List.mem_cons_of_mem _) h.noReturn
  noDots := by
    intro s hs
    apply h.noDots
    rw [← List.nil_append ('/' :: cs), Text.Commas.splitAt_append_cons]
    exact List.mem_append_right _ hs

theorem Url.Path.IsPlain.dropWhile_slash {cs : List Char} (h : IsPlain cs) :
    IsPlain (cs.dropWhile (· == '/')) := by
  induction cs with
  | nil => exact h
  | cons c cs ih =>
    by_cases hc : c = '/'
    · subst hc
      rw [List.dropWhile_cons_of_pos rfl]
      exact ih h.of_slash_cons
    · rwa [List.dropWhile_cons_of_neg (by simpa using hc)]

/-- What is asked for by a plain path stands, as it is encoded, behind the path of the server. -/
theorem Config.pathText_address_plain {c : Config} {text path : String}
    (h : Url.ofText text = .ok c.server)
    (hweb : c.server.scheme = "http" ∨ c.server.scheme = "https") (hplain : IsPlain path.toList) :
    (c.address path).pathText.toList =
      c.server.pathText.toList.rdropWhile (· == '/') ++ "/v1/".toList ++
        encode pathSet (path.toList.dropWhile (· == '/')) := by
  obtain ⟨own, hpath, hown⟩ := Url.exists_settled_of_ofText h hweb
  have hbase : trimEndSlashes c.server.pathText = slashed (trimmedEnd own) := by
    rw [Url.pathText, hpath, Url.Path.toText_rooted,
      Url.Path.trimEndSlashes_slashed fun s hs => (hown s hs).noSlash]
  have hsettled : ∀ s ∈ trimmedEnd own ++ [apiSegment.toList], IsSettled s := by
    rw [List.forall_mem_append, List.forall_mem_singleton]
    exact ⟨fun s hs => hown s (Url.Path.mem_of_mem_trimmedEnd hs),
      Url.Path.isSettled_of_word (by decide)⟩
  have hapi : slashed (trimmedEnd own) ++ '/' :: apiSegment.toList =
      slashed (trimmedEnd own ++ [apiSegment.toList]) := by
    rw [Url.Path.slashed_append]
    rfl
  rw [address, hbase, hapi, Url.pathText_withPath_plain hweb hpath hsettled hplain.dropWhile_slash,
    ← hapi, ← hbase]
  show trimEndSlashes c.server.pathText ++ "/v1".toList ++ '/' :: _ =
    trimEndSlashes c.server.pathText ++ _ ++ _
  simp

/-- Slashes around mounts, in front of paths and at the end of the path of the server do not matter:
a session sends the same requests with them and without them, and a step of it that has a token to
ask with does ask, once. What a plain path adds to the address of the server stands behind its path,
of which only the slashes at the end are left out. -/
theorem Client.requests_ignore_slashes {c : Client} {text : String}
    (hserver : Url.ofText text = .ok c.config.server) (hweb : c.IsOnWeb) :
    (∀ n,
      (c.config.server.addSlashes n).pathText = c.config.server.pathText ++ slashes n ∧
      { c.config.server.addSlashes n with path := c.config.server.path } = c.config.server ∧
      ∀ (tokens : TokenSource) (steps steps' : List (Step × Http.Network)),
        List.Forall₂ (fun s s' => s.1.AddsSlashes s'.1 ∧ s'.2 = s.2) steps steps' →
        (Session.run (c.addSlashes n) tokens steps').map (fun e => e.report.requests) =
          (Session.run c tokens steps).map fun e => e.report.requests) ∧
    (∀ (s : Step) (net : Http.Network) (tokens : TokenSource) (token : String),
      s.token? tokens = some token → c.CanAsk token →
      ∃ question q, s.question? = some question ∧
        c.request question.verb (c.config.address question.path) token question.body = .ok q ∧
        (net q = .unreachable → (s.perform c net tokens).1.requests = []) ∧
        (net q ≠ .unreachable → (s.perform c net tokens).1.requests = [q])) ∧
    ∀ path : String, IsPlain path.toList →
      { c.config.address path with path := c.config.server.path } = c.config.server ∧
      (c.config.address path).pathText.toList =
        c.config.server.pathText.toList.rdropWhile (· == '/') ++ "/v1/".toList ++
          encode pathSet (path.toList.dropWhile (· == '/')) := by
  refine ⟨fun n => ⟨Url.pathText_addSlashes hserver hweb n, ?_, ?_⟩,
    fun s net tokens token htoken hask => Step.exists_sent htoken hask net,
    fun path hplain => ⟨?_, ?_⟩⟩
  · obtain ⟨own, hpath, -⟩ := Url.exists_settled_of_ofText hserver hweb
    rw [Url.addSlashes, Url.withPath_of_rooted hpath]
  · intro tokens steps steps' hsteps
    exact requests_run_addSlashes hsteps hserver hweb n tokens
  · obtain ⟨p, hp⟩ := c.address_eq path
    rw [hp]
  · exact Config.pathText_address_plain hserver hweb hplain

/-- A mount between slashes, on a server with two slashes more at the end of its path. -/
theorem Client.readUrls_with_slashes :
    Url.ofText "http://[::1]:8200/vault/" = .ok Call.loopback.config.server ∧
      Call.loopback.IsOnWeb ∧
      ∃ q, (Session.run (Call.loopback.addSlashes 2) (.fixed "s.token")
          [(.call "//pki/" .readUrls, fun _ => .closed)]).map (fun e => e.report.requests) =
            [[q]] ∧
        q.target = "/vault/v1/pki/config/urls" := by
  obtain ⟨q, hq⟩ := Call.exists_request_of_closed .readUrls "pki"
  have hslashes := ((requests_ignore_slashes Call.ofText_loopback Call.loopback_canAsk.onWeb).1
    2).2.2 (.fixed "s.token") [(.call "pki" .readUrls, fun _ => .closed)]
      [(.call "//pki/" .readUrls, fun _ => .closed)]
      (.cons ⟨.call 2 1 "pki" .readUrls, rfl⟩ .nil)
  refine ⟨Call.ofText_loopback, Call.loopback_canAsk.onWeb, q, ?_, ?_⟩
  · rw [hslashes]
    exact congrArg (fun requests => [requests]) hq
  · obtain ⟨headers, hfields⟩ := Client.exists_headers_of_request
      (Call.request_of_mem_requests (hq ▸ List.mem_singleton_self q))
    rw [hfields]
    show (Call.loopback.config.address (Call.mountPath "pki" "config/urls")).target =
      "/vault/v1/pki/config/urls"
    decide

end VaultPki
