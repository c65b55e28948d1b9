import VaultPki.Proofs.Containment
import VaultPki.Proofs.Url.Plain

/-!
# Different calls address different endpoints

A request of an engine is told by its method and its target. Below the mount, the target is the path
of an endpoint, with the name of a role or a serial number behind it where the endpoint has one.
Plain names are encoded one way only and change nothing about the path in front of them, so the
target says which endpoint was meant and under which name. Revoking has one endpoint for all serial
numbers: only the bodies of such requests differ.
-/

namespace VaultPki

open Url.Percent (pathSet encode)
open Url.Path (IsPlain IsSettled slashed trimmedEnd)

/-! ## Endpoints -/

/-- The endpoints without a name behind them. -/
inductive FixedEndpoint where
  | listCertificates
  | revoke
  | installBundle
  | rotateRevocationList
  | writeUrls
  | readUrls
  | writeRevocationListSettings
  | readRevocationListSettings
  | tidy
  | listRoles
  | generateRoot (exported : Bool)
  | deleteRoot
  | signIntermediate
  | generateRequest (exported : Bool)
  | installIntermediate
  deriving DecidableEq, Fintype

/-- The endpoints with the name of a role or a serial number behind them. -/
inductive NamedEndpoint where
  | readCertificate
  | issue
  | sign
  | writeRole
  | readRole
  | deleteRole
  deriving DecidableEq

inductive Endpoint where
  | fixed (e : FixedEndpoint)
  | named (e : NamedEndpoint) (name : String)
  deriving DecidableEq

namespace FixedEndpoint

def verb : FixedEndpoint → Verb
  | listCertificates | listRoles => .list
  | rotateRevocationList | readUrls | readRevocationListSettings => .read
  | revoke | installBundle | writeUrls | writeRevocationListSettings | tidy | generateRoot _
  | signIntermediate | generateRequest _ | installIntermediate => .write
  | deleteRoot => .delete

def path : FixedEndpoint → String
  | listCertificates => "certs"
  | revoke => "revoke"
  | installBundle => "config/ca"
  | rotateRevocationList => "crl/rotate"
  | writeUrls | readUrls => "config/urls"
  | writeRevocationListSettings | readRevocationListSettings => "config/crl"
  | tidy => "tidy"
  | listRoles => "roles"
  | generateRoot exported => "root/generate/" ++ if exported then "exported" else "internal"
  | deleteRoot => "root"
  | signIntermediate => "root/sign-intermediate"
  | generateRequest exported =>
    "intermediate/generate/" ++ if exported then "exported" else "internal"
  | installIntermediate => "intermediate/set-signed"

end FixedEndpoint

namespace NamedEndpoint

def verb : NamedEndpoint → Verb
  | readCertificate | readRole => .read
  | issue | sign | writeRole => .write
  | deleteRole => .delete

/-- The path in front of the name. -/
def front : NamedEndpoint → String
  | readCertificate => "cert/"
  | issue => "issue/"
  | sign => "sign/"
  | writeRole | readRole | deleteRole => "roles/"

end NamedEndpoint

namespace Endpoint

def verb : Endpoint → Verb
  | fixed e => e.verb
  | named e _ => e.verb

def path : Endpoint → String
  | fixed e => e.path
  | named e name => e.front ++ name

end Endpoint

namespace Call

/-- The endpoint of a call. The authority, its chain and the list of revoked certificates are
certificates with fixed serial numbers. Mounts are enabled and disabled elsewhere. -/
def endpoint? : Call → Option Endpoint
  | readAuthority => some (.named .readCertificate Serial.authority)
  | readAuthorityChain => some (.named .readCertificate Serial.authorityChain)
  | readRevocationList => some (.named .readCertificate Serial.revocationList)
  | readCertificate serial => some (.named .readCertificate serial)
  | listCertificates => some (.fixed .listCertificates)
  | issue role _ => some (.named .issue role)
  | sign role _ _ => some (.named .sign role)
  | revoke _ => some (.fixed .revoke)
  | installBundle _ => some (.fixed .installBundle)
  | rotateRevocationList => some (.fixed .rotateRevocationList)
  | writeUrls _ => some (.fixed .writeUrls)
  | readUrls => some (.fixed .readUrls)
  | writeRevocationListSettings _ => some (.fixed .writeRevocationListSettings)
  | readRevocationListSettings => some (.fixed .readRevocationListSettings)
  | tidy _ => some (.fixed .tidy)
  | writeRole name _ => some (.named .writeRole name)
  | readRole name => some (.named .readRole name)
  | listRoles => some (.fixed .listRoles)
  | deleteRole name => some (.named .deleteRole name)
  | generateRoot o => some (.fixed (.generateRoot o.key.exported))
  | deleteRoot => some (.fixed .deleteRoot)
  | signIntermediate _ _ => some (.fixed .signIntermediate)
  | generateRequest o => some (.fixed (.generateRequest o.key.exported))
  | installIntermediate _ => some (.fixed .installIntermediate)
  | enable _ _ | disable | isEnabled => none

/-- Whether the name in a call is plain, if it has one behind its endpoint. -/
def HasPlainName (call : Call) : Prop :=
  ∀ endpoint name, call.named? = some (endpoint, name) → IsPlain name.toList

end Call

/-! ## Endpoints are told by verb and path -/

/-- The endpoint without a name that has a path. -/
def FixedEndpoint.ofPath? (verb : Verb) (path : String) : Option FixedEndpoint :=
  match verb, path with
  | .list, "certs" => some listCertificates
  | .list, "roles" => some listRoles
  | .read, "crl/rotate" => some rotateRevocationList
  | .read, "config/urls" => some readUrls
  | .read, "config/crl" => some readRevocationListSettings
  | .write, "revoke" => some revoke
  | .write, "config/ca" => some installBundle
  | .write, "config/urls" => some writeUrls
  | .write, "config/crl" => some writeRevocationListSettings
  | .write, "tidy" => some tidy
  | .write, "root/generate/exported" => some (generateRoot true)
  | .write, "root/generate/internal" => some (generateRoot false)
  | .write, "root/sign-intermediate" => some signIntermediate
  | .write, "intermediate/generate/exported" => some (generateRequest true)
  | .write, "intermediate/generate/internal" => some (generateRequest false)
  | .write, "intermediate/set-signed" => some installIntermediate
  | .delete, "root" => some deleteRoot
  | _, _ => none

theorem FixedEndpoint.ofPath?_path : ∀ e : FixedEndpoint, ofPath? e.verb e.path = some e := by
  decide

private theorem NamedEndpoint.ext_of_prefix (e e' : NamedEndpoint) :
    e.verb = e'.verb → e.front.toList <+: e'.front.toList → e = e' := by
  cases e <;> cases e' <;> decide

private theorem NamedEndpoint.not_prefix_fixed (e : NamedEndpoint) :
    ∀ f : FixedEndpoint, e.verb = f.verb → ¬e.front.toList <+: f.path.toList := by
  cases e <;> decide

private theorem FixedEndpoint.isPlain_path : ∀ e : FixedEndpoint, IsPlain e.path.toList := by
  decide

private theorem NamedEndpoint.exists_front_eq (e : NamedEndpoint) :
    ∃ word, e.front.toList = word ++ ['/'] ∧ IsPlain word := by
  cases e with
  | readCertificate => exact ⟨"cert".toList, rfl, by decide⟩
  | issue => exact ⟨"issue".toList, rfl, by decide⟩
  | sign => exact ⟨"sign".toList, rfl, by decide⟩
  | writeRole | readRole | deleteRole => exact ⟨"roles".toList, rfl, by decide⟩

namespace Endpoint

/-- An endpoint is known from its verb and its path, with the name in it. -/
theorem ext_of_path {e e' : Endpoint} (hverb : e.verb = e'.verb) (hpath : e.path = e'.path) :
    e = e' := by
  have hnever {n : NamedEndpoint} {f : FixedEndpoint} {name : String} {p : Prop}
      (hverb : n.verb = f.verb) (hpath : n.front ++ name = f.path) : p := by
    have hprefix : n.front.toList <+: f.path.toList := by
      rw [← hpath, String.toList_append]
      exact List.prefix_append _ _
    exact absurd hprefix (n.not_prefix_fixed f hverb)
  cases e with
  | fixed f =>
    cases e' with
    | fixed f' =>
      have hf : FixedEndpoint.ofPath? f.verb f.path = some f := f.ofPath?_path
      rw [show f.verb = f'.verb from hverb, show f.path = f'.path from hpath,
        f'.ofPath?_path] at hf
      rw [Option.some.inj hf]
    | named n name => exact hnever hverb.symm hpath.symm
  | named n name =>
    cases e' with
    | fixed f => exact hnever hverb hpath
    | named n' name' =>
      have hlists : n.front.toList ++ name.toList = n'.front.toList ++ name'.toList := by
        rw [← String.toList_append, ← String.toList_append]
        exact congrArg String.toList hpath
      have hn : n = n' := by
        rcases List.append_eq_append_iff.1 hlists with ⟨rest, hrest, -⟩ | ⟨rest, hrest, -⟩
        · exact n.ext_of_prefix n' hverb ⟨rest, hrest.symm⟩
        · exact (n'.ext_of_prefix n hverb.symm ⟨rest, hrest.symm⟩).symm
      subst hn
      have hname : name.toList = name'.toList := List.append_cancel_left hlists
      rw [String.toList_inj.1 hname]

/-- No path of an endpoint begins with a slash. -/
theorem head_path (e : Endpoint) : e.path.toList.head? ≠ some '/' := by
  cases e with
  | fixed f =>
    revert f
    decide
  | named n name =>
    have hfront : n.front.toList.head?.all (· != '/') = true ∧ n.front.toList ≠ [] := by
      cases n <;> decide
    rw [path, String.toList_append, List.head?_append]
    cases hhead : n.front.toList.head? with
    | none => exact absurd (List.head?_eq_none_iff.1 hhead) hfront.2
    | some c =>
      have hc := hfront.1
      rw [hhead] at hc
      simpa using hc

end Endpoint

/-! ## Targets -/

namespace Config

variable {c : Config} {text : String}

/-- Without the slashes in front of it, a continued path has the same beginning for all
continuations. -/
private theorem exists_dropWhile_slash (cs : List Char) :
    ∃ front, (front = [] ∨ ∃ front', front = front' ++ ['/']) ∧
      ∀ rest : List Char, rest.head? ≠ some '/' →
        (cs ++ '/' :: rest).dropWhile (· == '/') = front ++ rest := by
  induction cs with
  | nil =>
    refine ⟨[], .inl rfl, fun rest hrest => ?_⟩
    cases rest with
    | nil => rfl
    | cons c rest =>
      have hc : c ≠ '/' := fun hc => hrest (congrArg some hc)
      simp [hc]
  | cons c cs ih =>
    by_cases hc : c = '/'
    · obtain ⟨front, hfront, hrest⟩ := ih
      refine ⟨front, hfront, fun rest h => ?_⟩
      rw [List.cons_append, List.dropWhile_cons_of_pos (by simpa using hc), hrest rest h]
    · refine ⟨c :: cs ++ ['/'], .inr ⟨c :: cs, rfl⟩, fun rest _ => ?_⟩
      rw [List.cons_append, List.dropWhile_cons_of_neg (by simpa using hc)]
      simp

/-- The path in front of the endpoints at a mount, whatever text the mount is. -/
theorem exists_front_of_address (h : Url.ofText text = .ok c.server)
    (hweb : c.server.scheme = "http" ∨ c.server.scheme = "https") (mount : String) :
    ∃ front : List Char, ∀ path : String, IsPlain path.toList → path.toList.head? ≠ some '/' →
      (c.address (Call.mountPath mount path)).pathText.toList =
        front ++ '/' :: encode pathSet path.toList := by
  obtain ⟨own, hpath, hown⟩ := Url.exists_settled_of_ofText h hweb
  have hbase : trimEndSlashes c.server.pathText = slashed (trimmedEnd own) := by
    rw [Url.pathText, hpath, Url.Path.toText_rooted,
      Url.Path.trimEndSlashes_slashed fun s hs => (hown s hs).noSlash]
  have hsettled : ∀ s ∈ trimmedEnd own, IsSettled s :=
    fun s hs => hown s (Url.Path.mem_of_mem_trimmedEnd hs)
  obtain ⟨front, hfront, hdrop⟩ := exists_dropWhile_slash (Call.trimMount mount).toList
  obtain ⟨api, hapi⟩ : ∃ api : List Char, ∀ rest,
      apiSegment.toList ++ '/' :: (front ++ rest) = api ++ '/' :: rest := by
    rcases hfront with rfl | ⟨front', rfl⟩
    · exact ⟨apiSegment.toList, fun _ => rfl⟩
    · exact ⟨apiSegment.toList ++ '/' :: front', fun _ => by simp⟩
  obtain ⟨place, hplace⟩ := Url.exists_pathText_withPath hweb hpath hsettled api
  refine ⟨place, fun path hplain hhead => ?_⟩
  have hmount : (Call.mountPath mount path).toList =
      (Call.trimMount mount).toList ++ '/' :: path.toList := by
    simp [Call.mountPath]
  rw [address, hbase, hmount, hdrop path.toList hhead, ← hplace path.toList hplain, ← hapi,
    List.append_assoc]
  rfl

end Config

namespace Call

variable {call : Call} {e : Endpoint} {c : Client} {text mount token : String} {q : Http.Request}

theorem operation_of_endpoint (mount : String) (h : call.endpoint? = some e) :
    (call.operation mount).verb = e.verb ∧
      (call.operation mount).path = mountPath mount e.path := by
  cases call <;> cases h <;> exact ⟨rfl, rfl⟩

theorem isPlain_name_of_endpoint {n : NamedEndpoint} {name : String}
    (h : call.endpoint? = some (.named n name)) (hname : call.HasPlainName) :
    IsPlain name.toList := by
  cases call <;> cases h
  case readAuthority | readAuthorityChain | readRevocationList => decide
  all_goals exact hname _ _ rfl

theorem isPlain_path_of_endpoint (h : call.endpoint? = some e) (hname : call.HasPlainName) :
    IsPlain e.path.toList := by
  cases e with
  | fixed f => exact f.isPlain_path
  | named n name =>
    obtain ⟨word, hfront, hword⟩ := n.exists_front_eq
    have hpath : (Endpoint.named n name).path.toList = word ++ '/' :: name.toList := by
      rw [Endpoint.path, String.toList_append, hfront, List.append_assoc]
      rfl
    rw [hpath]
    exact hword.append_slash (isPlain_name_of_endpoint h hname)

/-- What calls of one verb ask a mount for is told by the path of the address. -/
theorem endpoint_eq_of_pathText {c : Config} {call' : Call} {e' : Endpoint}
    (hserver : Url.ofText text = .ok c.server)
    (hweb : c.server.scheme = "http" ∨ c.server.scheme = "https")
    (h : call.endpoint? = some e) (h' : call'.endpoint? = some e') (hverb : e.verb = e'.verb)
    (hname : call.HasPlainName) (hname' : call'.HasPlainName)
    (hpath : (c.address (call.operation mount).path).pathText =
      (c.address (call'.operation mount).path).pathText) :
    e = e' := by
  have hplain := isPlain_path_of_endpoint h hname
  have hplain' := isPlain_path_of_endpoint h' hname'
  obtain ⟨front, hfront⟩ := Config.exists_front_of_address hserver hweb mount
  rw [(operation_of_endpoint mount h).2, (operation_of_endpoint mount h').2, ← String.toList_inj,
    hfront e.path hplain e.head_path, hfront e'.path hplain' e'.head_path,
    List.append_cancel_left_eq, List.cons.injEq,
    Url.Percent.encode_inj hplain.noPercent hplain'.noPercent] at hpath
  exact Endpoint.ext_of_path hverb (String.toList_inj.1 hpath.2)

/-- What a request for an endpoint asks for beside the path. -/
def parameters : Verb → List Char
  | .list => "?list=true".toList
  | _ => []

theorem target_destination {u : Url} (v : Verb) (h : u.query = none) :
    (Client.destination v u).target.toList = u.pathText.toList ++ parameters v := by
  cases v with
  | list =>
    rw [Client.destination, Url.withParameter, h, Url.target, String.toList_append]
    rfl
  | read | write | delete =>
    show u.target.toList = _
    rw [Url.target, h, String.toList_append]
    rfl

theorem line_of_endpoint (h : call.endpoint? = some e) (hquery : c.config.server.query = none)
    (hq : (call.operation mount).request c token = .ok q) :
    q.method = Client.method e.verb ∧
      q.target.toList =
        (c.config.address (mountPath mount e.path)).pathText.toList ++ parameters e.verb := by
  obtain ⟨hverb, hpath⟩ := operation_of_endpoint mount h
  obtain ⟨headers, rfl⟩ := Client.exists_headers_of_request hq
  rw [hverb, hpath]
  have hnone : (c.config.address (mountPath mount e.path)).query = none := by
    rw [Client.query_address, hquery]
  exact ⟨rfl, target_destination e.verb hnone⟩

theorem question_not_mem_encode (cs : List Char) : '?' ∉ encode pathSet cs := by
  intro h
  have hkept : pathSet '?' = false := (Url.Percent.isKept_of_mem_encode h).1
  cases hkept

/-- Verbs are told by their methods and parameters, which no path takes for its own. -/
theorem verb_eq_of_line {v v' : Verb} {cs cs' : List Char}
    (hmethod : Client.method v = Client.method v')
    (h : encode pathSet cs ++ parameters v = encode pathSet cs' ++ parameters v') : v = v' := by
  have hnever {cs cs' : List Char} {p : Prop}
      (h : encode pathSet cs ++ parameters .list = encode pathSet cs' ++ []) : p := by
    have hmem : '?' ∈ encode pathSet cs ++ parameters .list :=
      List.mem_append_right _ (by decide)
    rw [h, List.append_nil] at hmem
    exact absurd hmem (question_not_mem_encode cs')
  cases v <;> cases v' <;> first
    | rfl
    | exact absurd hmethod (by decide)
    | exact hnever h
    | exact hnever h.symm

theorem body_revoke_inj (mount : String) {s₁ s₂ : String} :
    ((revoke s₁).operation mount).body = ((revoke s₂).operation mount).body ↔ s₁ = s₂ := by
  show some (Json.object [("serial_number", .text s₁)]) =
    some (Json.object [("serial_number", .text s₂)]) ↔ s₁ = s₂
  simp

/-- Two requests to one mount have the same method and target exactly if the calls have the same
endpoint and, where it has one, the same name behind it. The serial number of a revocation is no
such name: it is in the body, and there it tells one from another. -/
theorem request_line_eq_iff {text : String} {c : Client} {call₁ call₂ : Call} {e₁ e₂ : Endpoint}
    (mount token₁ token₂ : String) (net₁ net₂ : Http.Network)
    (hserver : Url.ofText text = .ok c.config.server) (hweb : c.IsOnWeb)
    (hquery : c.config.server.query = none)
    (h₁ : call₁.endpoint? = some e₁) (h₂ : call₂.endpoint? = some e₂)
    (hname₁ : call₁.HasPlainName) (hname₂ : call₂.HasPlainName) :
    ∀ q₁ ∈ (call₁.perform c net₁ mount (.ok token₁)).requests,
    ∀ q₂ ∈ (call₂.perform c net₂ mount (.ok token₂)).requests,
      (q₁.method = q₂.method ∧ q₁.target = q₂.target ↔ e₁ = e₂) ∧
      ∀ s₁ s₂, call₁ = revoke s₁ → call₂ = revoke s₂ → (q₁.body = q₂.body ↔ s₁ = s₂) := by
  intro q₁ hq₁ q₂ hq₂
  have hq₁ := request_of_mem_requests hq₁
  have hq₂ := request_of_mem_requests hq₂
  obtain ⟨hmethod₁, htarget₁⟩ := line_of_endpoint h₁ hquery hq₁
  obtain ⟨hmethod₂, htarget₂⟩ := line_of_endpoint h₂ hquery hq₂
  constructor
  · constructor
    · rintro ⟨hmethod, htarget⟩
      rw [hmethod₁, hmethod₂] at hmethod
      obtain ⟨front, hfront⟩ := Config.exists_front_of_address hserver hweb mount
      have hplain₁ := isPlain_path_of_endpoint h₁ hname₁
      have hplain₂ := isPlain_path_of_endpoint h₂ hname₂
      rw [← String.toList_inj, htarget₁, htarget₂, hfront e₁.path hplain₁ e₁.head_path,
        hfront e₂.path hplain₂ e₂.head_path, List.append_assoc, List.append_assoc,
        List.append_cancel_left_eq, List.cons_append, List.cons_append, List.cons.injEq] at htarget
      have hverb : e₁.verb = e₂.verb := verb_eq_of_line hmethod htarget.2
      have hpath : encode pathSet e₁.path.toList = encode pathSet e₂.path.toList := by
        have hencoded := htarget.2
        rwa [hverb, List.append_cancel_right_eq] at hencoded
      apply Endpoint.ext_of_path hverb
      rw [← String.toList_inj]
      exact (Url.Percent.encode_inj hplain₁.noPercent hplain₂.noPercent).1 hpath
    · rintro rfl
      refine ⟨hmethod₁.trans hmethod₂.symm, ?_⟩
      rw [← String.toList_inj, htarget₁, htarget₂]
  · rintro s₁ s₂ rfl rfl
    obtain ⟨headers₁, rfl⟩ := Client.exists_headers_of_request hq₁
    obtain ⟨headers₂, rfl⟩ := Client.exists_headers_of_request hq₂
    exact body_revoke_inj mount

/-- Listing the roles is not reading the role whose name is empty. -/
theorem listRoles_differs :
    Url.ofText "http://[::1]:8200/vault/" = .ok loopback.config.server ∧ loopback.IsOnWeb ∧
      loopback.config.server.query = none ∧ listRoles.HasPlainName ∧ (readRole "").HasPlainName ∧
      ∃ q₁ q₂, (listRoles.perform loopback (fun _ => .closed) "pki" (.ok "s.token")).requests =
          [q₁] ∧
        ((readRole "").perform loopback (fun _ => .closed) "pki" (.ok "s.token")).requests = [q₂] ∧
        ¬(q₁.method = q₂.method ∧ q₁.target = q₂.target) := by
  obtain ⟨q₁, hq₁⟩ := exists_request_of_closed listRoles "pki"
  obtain ⟨q₂, hq₂⟩ := exists_request_of_closed (readRole "") "pki"
  have hlist : listRoles.HasPlainName := nofun
  have hread : (readRole "").HasPlainName := by
    rintro endpoint name h
    cases h
    decide
  refine ⟨ofText_loopback, loopback_canAsk.onWeb, rfl, hlist, hread, q₁, q₂, hq₁, hq₂, ?_⟩
  rw [(request_line_eq_iff "pki" "s.token" "s.token" (fun _ => .closed) (fun _ => .closed)
    ofText_loopback loopback_canAsk.onWeb rfl rfl rfl hlist hread q₁
    (hq₁ ▸ List.mem_singleton_self q₁) q₂ (hq₂ ▸ List.mem_singleton_self q₂)).1]
  decide

/-- Two revocations with different serial numbers have the same method and target. -/
theorem revoke_same_line :
    Url.ofText "http://[::1]:8200/vault/" = .ok loopback.config.server ∧ loopback.IsOnWeb ∧
      loopback.config.server.query = none ∧ loopback.config.server.fragment = none ∧
      IsPlain "17-a4".toList ∧ IsPlain "17-a5".toList ∧
      ∃ q₁ q₂, ((revoke "17-a4").perform loopback (fun _ => .closed) "pki"
          (.ok "s.token")).requests = [q₁] ∧
        ((revoke "17-a5").perform loopback (fun _ => .closed) "pki" (.ok "s.token")).requests =
          [q₂] ∧
        q₁.method = q₂.method ∧ q₁.target = q₂.target ∧ q₁.body ≠ q₂.body := by
  obtain ⟨q₁, hq₁⟩ := exists_request_of_closed (revoke "17-a4") "pki"
  obtain ⟨q₂, hq₂⟩ := exists_request_of_closed (revoke "17-a5") "pki"
  obtain ⟨headers₁, hfields₁⟩ := Client.exists_headers_of_request
    (request_of_mem_requests (hq₁ ▸ List.mem_singleton_self q₁))
  obtain ⟨headers₂, hfields₂⟩ := Client.exists_headers_of_request
    (request_of_mem_requests (hq₂ ▸ List.mem_singleton_self q₂))
  refine ⟨ofText_loopback, loopback_canAsk.onWeb, rfl, rfl, by decide, by decide, q₁, q₂, hq₁, hq₂,
    ?_, ?_, ?_⟩
  · rw [hfields₁, hfields₂]
    rfl
  · rw [hfields₁, hfields₂]
    rfl
  · rw [hfields₁, hfields₂]
    exact mt (body_revoke_inj "pki").1 (by decide)

end Call

end VaultPki
