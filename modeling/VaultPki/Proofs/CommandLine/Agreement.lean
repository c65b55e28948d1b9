import VaultPki.Proofs.CommandLine.Connection
import VaultPki.Proofs.CommandLine.Reading
import VaultPki.Proofs.Containment
import VaultPki.Proofs.Outcome
import VaultPki.Proofs.Session

/-!
# The command line and the calls

A command stands for one call. What the tool sends, reports and concludes is what that call sends,
reports and comes to, and where something is missing or not confirmed nothing is sent at all.
-/

namespace VaultPki

namespace Command

/-- The option for the values of a switch that can be repeated. -/
inductive Lists : List String → Option (List String) → Prop
  | never : Lists [] none
  | given {values : List String} (h : values ≠ []) : Lists values (some values)

/-- The option for a type of key that is named. -/
inductive NamesKeyType : Option String → Option KeyType → Prop
  | never : NamesKeyType none none
  | given {name : String} {keyType : KeyType} (h : Vocabulary.ofName? name = some keyType) :
    NamesKeyType (some name) (some keyType)

/-- The call for which a command stands, with the options that its switches give. -/
inductive Asks : Command → Call → Prop
  | ca : Asks ca .readAuthority
  | caChain : Asks caChain .readAuthorityChain
  | crl : Asks crl .readRevocationList
  | rotateCrl : Asks rotateCrl .rotateRevocationList
  | certs : Asks certs .listCertificates
  | cert {serial : String} : Asks (cert serial) (.readCertificate serial)
  | issue {role : String} {commonName ttl : Option String} {names addresses uris : List String}
      {format : OutputFormat} {names? addresses? uris? : Option (List String)}
      (hn : Lists names names?) (ha : Lists addresses addresses?) (hu : Lists uris uris?) :
    Asks (issue role commonName names addresses uris ttl format)
      (.issue role {
        commonName
        alternativeNames := { names := names?, addresses := addresses?, uris := uris? }
        ttl })
  | revoke {serial : String} : Asks (revoke serial) (.revoke serial)
  | roles : Asks roles .listRoles
  | role {name : String} : Asks (role name) (.readRole name)
  | writeRole {name : String} {domains : List String} {domains? : Option (List String)}
      {subdomains : Bool} {ttl maxTtl keyName : Option String} {keyType : Option KeyType}
      {keyBits : Option UInt32} (hd : Lists domains domains?) (hk : NamesKeyType keyName keyType) :
    Asks (writeRole name domains subdomains ttl maxTtl keyName keyBits)
      (.writeRole name {
        allowedDomains := domains?
        allowSubdomains := if subdomains then some true else none
        ttl
        maxTtl
        keyType
        keyBits })
  | deleteRole {name : String} : Asks (deleteRole name) (.deleteRole name)
  | generateRoot {commonName : String} {organization country : List String}
      {organization? country? : Option (List String)} {ttl keyName : Option String}
      {keyType : Option KeyType} {bits : Option UInt32} {maxPathLength : Option Int32}
      {exported : Bool} (ho : Lists organization organization?) (hc : Lists country country?)
      (hk : NamesKeyType keyName keyType) :
    Asks (generateRoot commonName organization country ttl keyName bits maxPathLength exported)
      (.generateRoot {
        commonName := some commonName
        subject := { organization := organization?, country := country? }
        ttl
        key := { keyType, bits, exported }
        maxPathLength })
  | deleteRoot : Asks (deleteRoot true) .deleteRoot
  | tidy {store revoked : Bool} {safetyBuffer : Option String} :
    Asks (tidy store revoked safetyBuffer) (.tidy ⟨some store, some revoked, safetyBuffer⟩)
  | enable {description : String} {defaultTtl maxTtl : Option String} :
    Asks (enable description defaultTtl maxTtl) (.enable description ⟨defaultTtl, maxTtl⟩)
  | disable : Asks (disable true) .disable
  | status : Asks status .isEnabled

/-- Why no call is made for a command. -/
inductive IsRefused : Command → Prop
  | unknownKeyTypeOfRole {name keyName : String} {domains : List String} {subdomains : Bool}
      {ttl maxTtl : Option String} {keyBits : Option UInt32}
      (h : (Vocabulary.ofName? keyName : Option KeyType) = none) :
    IsRefused (writeRole name domains subdomains ttl maxTtl (some keyName) keyBits)
  | unknownKeyTypeOfRoot {commonName keyName : String} {organization country : List String}
      {ttl : Option String} {keyBits : Option UInt32} {maxPathLength : Option Int32}
      {exported : Bool} (h : (Vocabulary.ofName? keyName : Option KeyType) = none) :
    IsRefused (generateRoot commonName organization country ttl (some keyName) keyBits
      maxPathLength exported)
  | unconfirmedDeletion : IsRefused (deleteRoot false)
  | unconfirmedUnmounting : IsRefused (disable false)

theorem NamesKeyType.ofName?_ne_none {name : String} {keyType : Option KeyType}
    (h : NamesKeyType (some name) keyType) : (Vocabulary.ofName? name : Option KeyType) ≠ none := by
  cases h with
  | given h =>
    rw [h]
    nofun

theorem Asks.eq_status {c : Command} (h : c.Asks .isEnabled) : c = .status := by
  cases h
  rfl

theorem lists_nonEmpty (values : List String) : Lists values (CommandLine.nonEmpty? values) := by
  cases values with
  | nil => exact .never
  | cons v vs => exact .given (List.cons_ne_nil v vs)

end Command

namespace Call

/-- Whether what a call gives is what the tool asks for: a certificate that is looked for must be
there, and so must the engine. -/
def Satisfies : (call : Call) → call.Result → Prop
  | readCertificate _, certificate => certificate.isSome = true
  | isEnabled, enabled => enabled = true
  | _, _ => True

end Call

/-- Whether an execution is that of a call which made a report. -/
structure Execution.Mirrors (e : Execution) (mount : String) (call : Call)
    (r : Report call.Result) : Prop where
  requests : e.requests = r.requests
  events : e.events = r.events
  complaint : e.complaint = none ↔ ∃ v, r.result = .ok v ∧ call.Satisfies v
  output : e.complaint ≠ none →
    e.output = "" ∨ call = .isEnabled ∧ e.output = mount ++ ": not enabled\n"

namespace CommandLine

variable {inv : Invocation} {ask : (c : Call) → Report c.Result}

theorem ofReport_mirrors {mount : String} {call : Call} {r : Report call.Result}
    {f : call.Result → String × Option Complaint}
    (hcomplaint : ∀ v, (f v).2 = none ↔ call.Satisfies v)
    (houtput : ∀ v, (f v).2 ≠ none →
      (f v).1 = "" ∨ call = .isEnabled ∧ (f v).1 = mount ++ ": not enabled\n") :
    (Execution.ofReport r f).Mirrors mount call r := by
  obtain ⟨result, requests, events⟩ := r
  cases result with
  | error e =>
    exact ⟨rfl, rfl, ⟨nofun, fun ⟨v, h, _⟩ => nomatch h⟩, fun _ => .inl rfl⟩
  | ok v =>
    refine ⟨rfl, rfl, (hcomplaint v).trans ?_, houtput v⟩
    constructor
    · exact fun h => ⟨v, rfl, h⟩
    · rintro ⟨v', hv, h⟩
      cases hv
      exact h

/-- What is only printed is asked for. -/
theorem printing_mirrors {mount : String} (call : Call) {r : Report call.Result}
    {f : call.Result → String} (h : ∀ v, call.Satisfies v) :
    (Execution.printing r f).Mirrors mount call r :=
  ofReport_mirrors (fun v => ⟨fun _ => h v, fun _ => rfl⟩) fun _ h => absurd rfl h

theorem withKeyType_cases (keyName : Option String) :
    (∃ keyType, Command.NamesKeyType keyName keyType ∧
      ∀ f, withKeyType keyName f = f keyType) ∨
    ∃ name complaint, keyName = some name ∧ (Vocabulary.ofName? name : Option KeyType) = none ∧
      ∀ f, withKeyType keyName f = .refused complaint := by
  cases keyName with
  | none => exact .inl ⟨none, .never, fun _ => rfl⟩
  | some name =>
    cases h : (Vocabulary.ofName? name : Option KeyType) with
    | some keyType =>
      refine .inl ⟨some keyType, .given h, fun f => ?_⟩
      rw [withKeyType, Vocabulary.ofOptionalName, Vocabulary.ofName, h]
      rfl
    | none =>
      refine .inr ⟨name, .failed (.unknownName "key type" name), rfl, h, fun f => ?_⟩
      rw [withKeyType, Vocabulary.ofOptionalName, Vocabulary.ofName, h]
      rfl

/-- A command is refused, or it is carried out by the one call for which it stands. -/
theorem execute_cases (ask : (c : Call) → Report c.Result) (inv : Invocation) :
    (inv.command.IsRefused ∧ ∃ complaint, execute ask inv = .refused complaint) ∨
      ¬inv.command.IsRefused ∧ ∃ call, inv.command.Asks call ∧
        (execute ask inv).Mirrors inv.mount call (ask call) := by
  obtain ⟨address, token, mount, serverNamespace, authorityFile, insecure, quiet, command⟩ := inv
  cases command with
  | ca => exact .inr ⟨nofun, _, .ca, printing_mirrors _ fun _ => trivial⟩
  | caChain => exact .inr ⟨nofun, _, .caChain, printing_mirrors _ fun _ => trivial⟩
  | crl => exact .inr ⟨nofun, _, .crl, printing_mirrors _ fun _ => trivial⟩
  | rotateCrl => exact .inr ⟨nofun, _, .rotateCrl, printing_mirrors _ fun _ => trivial⟩
  | certs => exact .inr ⟨nofun, _, .certs, printing_mirrors _ fun _ => trivial⟩
  | cert serial =>
    refine .inr ⟨nofun, _, .cert, ofReport_mirrors ?_ ?_⟩
    · rintro (_ | certificate) <;> simp [Call.Satisfies]
    · rintro (_ | certificate) <;> simp
  | issue role commonName names addresses uris ttl format =>
    refine .inr ⟨nofun, _, .issue ?_ ?_ ?_, printing_mirrors _ fun _ => trivial⟩
    · exact Command.lists_nonEmpty names
    · exact Command.lists_nonEmpty addresses
    · exact Command.lists_nonEmpty uris
  | revoke serial => exact .inr ⟨nofun, _, .revoke, printing_mirrors _ fun _ => trivial⟩
  | roles => exact .inr ⟨nofun, _, .roles, printing_mirrors _ fun _ => trivial⟩
  | role name => exact .inr ⟨nofun, _, .role, printing_mirrors _ fun _ => trivial⟩
  | writeRole name domains subdomains ttl maxTtl keyName keyBits =>
    rcases withKeyType_cases keyName with ⟨keyType, hk, hrun⟩ | ⟨key, _, rfl, hkey, hrun⟩
    · refine .inr ⟨?_, _, .writeRole (Command.lists_nonEmpty domains) hk, ?_⟩
      · intro hrefused
        cases hrefused with
        | unknownKeyTypeOfRole hkey => exact hk.ofName?_ne_none hkey
      · change (withKeyType keyName _).Mirrors _ _ _
        rw [hrun]
        exact printing_mirrors (.writeRole _ _) fun _ => trivial
    · exact .inl ⟨.unknownKeyTypeOfRole hkey, _, hrun _⟩
  | deleteRole name =>
    exact .inr ⟨nofun, _, .deleteRole, printing_mirrors (.deleteRole _) fun _ => trivial⟩
  | generateRoot commonName organization country ttl keyName bits maxPathLength exported =>
    rcases withKeyType_cases keyName with ⟨keyType, hk, hrun⟩ | ⟨key, _, rfl, hkey, hrun⟩
    · have ho := Command.lists_nonEmpty organization
      have hc := Command.lists_nonEmpty country
      refine .inr ⟨?_, _, .generateRoot ho hc hk, ?_⟩
      · intro hrefused
        cases hrefused with
        | unknownKeyTypeOfRoot hkey => exact hk.ofName?_ne_none hkey
      · change (withKeyType keyName _).Mirrors _ _ _
        rw [hrun]
        exact printing_mirrors (.generateRoot _) fun _ => trivial
    · exact .inl ⟨.unknownKeyTypeOfRoot hkey, _, hrun _⟩
  | deleteRoot confirmed =>
    cases confirmed with
    | false => exact .inl ⟨.unconfirmedDeletion, _, rfl⟩
    | true => exact .inr ⟨nofun, _, .deleteRoot, printing_mirrors .deleteRoot fun _ => trivial⟩
  | tidy store revoked safetyBuffer =>
    exact .inr ⟨nofun, _, .tidy, printing_mirrors (.tidy _) fun _ => trivial⟩
  | enable description defaultTtl maxTtl =>
    exact .inr ⟨nofun, _, .enable, printing_mirrors (.enable _ _) fun _ => trivial⟩
  | disable confirmed =>
    cases confirmed with
    | false => exact .inl ⟨.unconfirmedUnmounting, _, rfl⟩
    | true => exact .inr ⟨nofun, _, .disable, printing_mirrors .disable fun _ => trivial⟩
  | status =>
    refine .inr ⟨nofun, _, .status, ofReport_mirrors ?_ ?_⟩
    · rintro (_ | _) <;> simp [Call.Satisfies]
    · rintro (_ | _) h
      · exact .inr ⟨rfl, String.append_assoc⟩
      · exact absurd rfl h

end CommandLine

/-! ## Tokens that cannot be used -/

namespace Call

variable {call : Call} {c : Client} {net : Http.Network} {mount token : String}

theorem not_satisfies_of_error {e : Error} {v : call.Result}
    (h : call.settled (.error e) = .ok v) : ¬call.Satisfies v := by
  cases call with
  | isEnabled =>
    cases h
    nofun
  | _ => cases h

theorem perform_of_unusable_token (call : Call) (net : Http.Network) (mount : String)
    (h : token = "" ∨ Http.isHeaderValue token = false ∨ ¬c.HasValidNamespace) :
    ∃ e events, call.perform c net mount (TokenSource.fixed token).next.1 =
      call.settle mount ⟨.error e, [], events⟩ := by
  by_cases hempty : token = ""
  · subst hempty
    exact ⟨.emptyToken, [], perform_error call c net mount _⟩
  · have hauth : ∃ e, c.authHeaders token = .error e := by
      cases hvalid : Http.isHeaderValue token with
      | false => exact ⟨_, Client.authHeaders_of_invalid_token hvalid⟩
      | true =>
        refine ⟨_, Client.authHeaders_of_invalid_namespace hvalid ?_⟩
        simpa [hempty, hvalid] using h
    obtain ⟨e, hauth⟩ := hauth
    refine ⟨e, [(call.operation mount).opening c], ?_⟩
    rw [TokenSource.next_fixed hempty, perform_ok,
      Operation.perform_of_request_error (Client.request_of_authHeaders_error hauth)]

end Call

/-! ## Whole command lines -/

namespace Invocation

/-- Why nothing is sent for an invocation. -/
inductive IsIdle (env : Environment) (inv : Invocation) : Prop
  | lacksClient (h : inv.LacksClient env)
  | emptyToken (h : inv.token = some "")
  | invalidToken {token : String} (h : inv.token = some token)
      (hv : Http.isHeaderValue token = false)
  | invalidNamespace {name : String} (h : inv.serverNamespace = some name)
      (hv : Http.isHeaderValue name = false)
  | refused (h : inv.command.IsRefused)

/-- An invocation with a client and a command that is not refused is idle exactly if its token or
its namespace cannot be used. -/
theorem Connects.isIdle_iff {env : Environment} {inv : Invocation} {c : Client} {token : String}
    (h : inv.Connects env c token) (hrefused : ¬inv.command.IsRefused) :
    inv.IsIdle env ↔
      token = "" ∨ Http.isHeaderValue token = false ∨ ¬c.HasValidNamespace := by
  constructor
  · intro hidle
    cases hidle with
    | lacksClient hlacks => exact absurd h (not_connects_of_lacksClient hlacks)
    | refused h => exact absurd h hrefused
    | emptyToken h' =>
      obtain ⟨-, -, ht, -⟩ := h
      exact .inl (Option.some.inj (ht.symm.trans h'))
    | invalidToken h' hv =>
      obtain ⟨-, -, ht, -⟩ := h
      rw [Option.some.inj (ht.symm.trans h')]
      exact .inr (.inl hv)
    | invalidNamespace h' hv =>
      cases h
      refine .inr (.inr fun hvalid => ?_)
      cases hv.symm.trans (hvalid _ h')
  · obtain ⟨-, -, ht, -⟩ := h
    rintro (rfl | hv | hn)
    · exact .emptyToken ht
    · exact .invalidToken ht hv
    · obtain ⟨name, h', hv⟩ : ∃ name, inv.serverNamespace = some name ∧
          Http.isHeaderValue name ≠ true := by
        simpa [Client.HasValidNamespace, client] using hn
      exact .invalidNamespace h' (Bool.eq_false_of_not_eq_true hv)

/-- Whether the server of an invocation is on the web, if its address can be read. -/
def AsksWeb (inv : Invocation) : Prop :=
  ∀ address server, inv.address = some address → Url.ofText address = .ok server →
    server.scheme = "http" ∨ server.scheme = "https"

theorem Connects.onWeb {env : Environment} {inv : Invocation} {c : Client} {token : String}
    (h : inv.Connects env c token) (hweb : inv.AsksWeb) : c.IsOnWeb := by
  obtain ⟨ha, hu, -, -⟩ := h
  exact hweb _ _ ha hu

end Invocation

namespace CommandLine

variable {env : Environment} {net : Http.Network} {inv : Invocation} {words : List String}

/-- Whether a process ends as a call does that asks with a token. -/
structure Conclusion.Follows (k : Conclusion) (net : Http.Network) (mount : String) (c : Client)
    (token : String) (call : Call) : Prop where
  sent : ∃ q, (call.operation mount).request c token = .ok q ∧
    k.requests = match net q with
      | .unreachable => []
      | _ => [q]
  requests : k.requests = (call.perform c net mount (.ok token)).requests
  events : k.events = (call.perform c net mount (.ok token)).events
  code : k.code = 0 ↔
    ∃ v, (call.perform c net mount (.ok token)).result = .ok v ∧ call.Satisfies v

/-- Whether a process ends as the calls of the library say that it must. -/
structure Conclusion.Agrees (k : Conclusion) (env : Environment) (net : Http.Network)
    (inv : Invocation) : Prop where
  idle : inv.IsIdle env → k.requests = [] ∧ k.code = 1
  active : ¬inv.IsIdle env → ∃ c token call, inv.Connects env c token ∧
    inv.command.Asks call ∧ k.Follows net inv.mount c token call
  code : k.code = 0 ∧ k.complaint = none ∨ k.code = 1 ∧ k.complaint.isSome = true
  output : k.code ≠ 0 →
    k.output = "" ∨ inv.command = .status ∧ k.output = inv.mount ++ ": not enabled\n"

theorem conclude_of_read (hread : read env words = .ok inv) :
    conclude env net words =
      ⟨if (run env net inv).complaint.isNone then 0 else 1, (run env net inv).output,
        (run env net inv).complaint.map Complaint.message, (run env net inv).requests,
        (run env net inv).events⟩ := by
  rw [conclude, hread]

theorem code_eq_zero_iff (hread : read env words = .ok inv) :
    (conclude env net words).code = 0 ↔ (run env net inv).complaint = none := by
  rw [conclude_of_read hread]
  cases (run env net inv).complaint <;> simp

theorem agrees_of_refused {complaint : Complaint} (hread : read env words = .ok inv)
    (hidle : inv.IsIdle env) (hrun : run env net inv = .refused complaint) :
    (conclude env net words).Agrees env net inv := by
  rw [conclude_of_read hread, hrun]
  exact ⟨fun _ => ⟨rfl, rfl⟩, fun h => absurd hidle h, .inr ⟨rfl, rfl⟩, fun _ => .inl rfl⟩

theorem code_cases (hread : read env words = .ok inv) :
    (conclude env net words).code = 0 ∨ (conclude env net words).code = 1 := by
  rw [conclude_of_read hread]
  cases (run env net inv).complaint with
  | none => exact .inl rfl
  | some _ => exact .inr rfl

theorem follows_of_mirrors {c : Client} {token : String} {call : Call}
    (hread : read env words = .ok inv) (hask : c.CanAsk token)
    (hmirrors : (run env net inv).Mirrors inv.mount call
      (call.perform c net inv.mount (.ok token))) :
    (conclude env net words).Follows net inv.mount c token call := by
  obtain ⟨q, hq⟩ := (call.operation inv.mount).exists_request hask
  have hrequests : (conclude env net words).requests =
      (call.perform c net inv.mount (.ok token)).requests := by
    rw [conclude_of_read hread, hmirrors.requests]
  refine ⟨⟨q, hq, ?_⟩, hrequests, ?_, ?_⟩
  · rw [hrequests, Call.perform_ok, Call.settle_requests]
    refine (Operation.perform_requests net hq).trans ?_
    cases net q <;> rfl
  · rw [conclude_of_read hread, hmirrors.events]
  · rw [code_eq_zero_iff hread, hmirrors.complaint]

theorem agrees_of_mirrors {c : Client} {token : String} {call : Call}
    (hread : read env words = .ok inv) (hweb : inv.AsksWeb) (hconnects : inv.Connects env c token)
    (hrefused : ¬inv.command.IsRefused) (hasks : inv.command.Asks call)
    (hmirrors : (run env net inv).Mirrors inv.mount call
      (call.perform c net inv.mount (TokenSource.fixed token).next.1)) :
    (conclude env net words).Agrees env net inv := by
  constructor
  case idle =>
    intro hidle
    have hunusable := (hconnects.isIdle_iff hrefused).1 hidle
    obtain ⟨e, events, hperform⟩ := call.perform_of_unusable_token net inv.mount hunusable
    rw [hperform] at hmirrors
    -- A probe that fails counts as a result, but not as one that satisfies.
    have hcomplaint : (run env net inv).complaint ≠ none := by
      rw [Ne, hmirrors.complaint, Call.settle_result]
      rintro ⟨v, hv, hsatisfies⟩
      exact Call.not_satisfies_of_error hv hsatisfies
    refine ⟨?_, ?_⟩
    · rw [conclude_of_read hread, hmirrors.requests, Call.settle_requests]
    · exact (code_cases hread).resolve_left fun h => hcomplaint ((code_eq_zero_iff hread).1 h)
  case active =>
    intro hidle
    rw [hconnects.isIdle_iff hrefused, not_or, not_or, not_not] at hidle
    obtain ⟨hempty, hvalid, hnamespace⟩ := hidle
    have hask : c.CanAsk token :=
      ⟨Bool.eq_true_of_not_eq_false hvalid, hnamespace, hconnects.onWeb hweb⟩
    rw [TokenSource.next_fixed hempty] at hmirrors
    exact ⟨c, token, call, hconnects, hasks, follows_of_mirrors hread hask hmirrors⟩
  case code =>
    rw [conclude_of_read hread]
    cases (run env net inv).complaint with
    | none => exact .inl ⟨rfl, rfl⟩
    | some complaint => exact .inr ⟨rfl, rfl⟩
  case output =>
    intro hcode
    rw [conclude_of_read hread]
    refine (hmirrors.output fun h => hcode ((code_eq_zero_iff hread).2 h)).imp_right ?_
    rintro ⟨rfl, houtput⟩
    exact ⟨hasks.eq_status, houtput⟩

/-- A command line is accepted exactly if its words say an invocation, with the options that the
switches around the name of the command and the environment give. Whatever the environment is and
whatever the server answers: if something is missing, cannot be used or is not confirmed, nothing is
sent and the process fails. Otherwise it makes the one call for which the command stands, sends and
reports what that sends and reports, and succeeds exactly if the call gives what is asked for. A
process that fails prints nothing, unless it was asked whether the engine is there. -/
theorem conclude_agrees :
    (read env words = .ok inv ↔ inv.IsSaidBy env words) ∧
      (inv.IsSaidBy env words → inv.AsksWeb →
        (conclude env net words).Agrees env net inv) := by
  refine ⟨read_eq_ok_iff, fun hsaid hweb => ?_⟩
  have hread := read_eq_ok_iff.2 hsaid
  rcases inv.connects_or_lacksClient env with ⟨c, token, hconnects⟩ | hlacks
  · have hrun := run_of_connects net hconnects
    rcases execute_cases (fun call => call.perform c net inv.mount
      (TokenSource.fixed token).next.1) inv with
      ⟨hrefused, _, hexecute⟩ | ⟨hrefused, call, hasks, hmirrors⟩
    · exact agrees_of_refused hread (.refused hrefused) (hrun.trans hexecute)
    · rw [← hrun] at hmirrors
      exact agrees_of_mirrors hread hweb hconnects hrefused hasks hmirrors
  · obtain ⟨complaint, hrun⟩ := run_of_lacksClient net hlacks
    exact agrees_of_refused hread (.lacksClient hlacks) hrun

/-- A process without variables and files. -/
def bareEnvironment : Environment :=
  ⟨fun _ => none, fun _ => none⟩

/-- A command line that asks a server to tidy up after revocations. -/
def tidyWords : List String :=
  ["-a", "http://[::1]:8200/vault/", "-t", "s.token", "tidy", "--revoked", "-m", "pki/"]

def tidyInvocation : Invocation where
  address := some "http://[::1]:8200/vault/"
  token := some "s.token"
  mount := "pki/"
  serverNamespace := none
  authorityFile := none
  insecure := false
  quiet := false
  command := .tidy false true none

theorem tidyInvocation_connects : tidyInvocation.Connects bareEnvironment Call.loopback "s.token" :=
  .intro rfl Call.ofText_loopback rfl (.publicRoots rfl rfl)

theorem tidyInvocation_asksWeb : tidyInvocation.AsksWeb := by
  intro address server haddress hserver
  cases haddress
  cases Call.ofText_loopback.symm.trans hserver
  exact .inl rfl

theorem tidyInvocation_not_isIdle : ¬tidyInvocation.IsIdle bareEnvironment := by
  rw [tidyInvocation_connects.isIdle_iff nofun]
  rintro (h | h | h)
  · exact absurd h (by decide)
  · exact absurd h (by decide)
  · exact h Call.loopback_canAsk.validNamespace

/-- The flag that is not given is sent as well, and the answer makes the process succeed. -/
theorem conclude_tidy :
    tidyInvocation.IsSaidBy bareEnvironment tidyWords ∧ tidyInvocation.AsksWeb ∧
      (conclude bareEnvironment (fun _ => .answered ⟨202, [], true⟩) tidyWords).code = 0 ∧
      ∃ q, (conclude bareEnvironment (fun _ => .answered ⟨202, [], true⟩) tidyWords).requests =
          [q] ∧
        q.body = some (.object
          [("tidy_cert_store", .bool false), ("tidy_revoked_certs", .bool true)]) := by
  obtain ⟨hreads, hagrees⟩ := @conclude_agrees bareEnvironment
    (fun _ => .answered ⟨202, [], true⟩) tidyInvocation tidyWords
  have hsaid := hreads.1 rfl
  obtain ⟨c, token, call, hconnects, hasks, hfollows⟩ :=
    (hagrees hsaid tidyInvocation_asksWeb).active tidyInvocation_not_isIdle
  cases hasks
  obtain ⟨q, hq, hrequests⟩ := hfollows.sent
  obtain ⟨headers, rfl⟩ := Client.exists_headers_of_request hq
  refine ⟨hsaid, tidyInvocation_asksWeb, hfollows.code.2 ⟨(), ?_, trivial⟩, _, hrequests, rfl⟩
  exact (Call.perform_result_of_answered hq rfl).trans rfl

end CommandLine

end VaultPki
