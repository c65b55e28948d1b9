import VaultPki.CommandLine.Invocation
import VaultPki.Engine.Session
import VaultPki.Json.Writer

/-!
# Carrying out commands

A command makes at most one call. What it prints is printed only after the call has succeeded; what
went wrong is one line.
-/

namespace VaultPki

inductive Complaint where
  | noAddress
  | noToken
  | url (p : Url.Problem)
  | file (p : FileProblem)
  | unconfirmedDeletion
  | unconfirmedUnmounting
  | noCertificate (serial : String)
  | notReachable
  | failed (e : Error)
  deriving DecidableEq

def Complaint.message : Complaint → String
  | .noAddress => "Vault address required (--address or VAULT_ADDR)"
  | .noToken => "Vault token required (--token or VAULT_TOKEN)"
  | .url p => p.message
  | .file p => p.message
  | .unconfirmedDeletion => "Refusing to delete the CA without --yes"
  | .unconfirmedUnmounting => "Refusing to unmount without --yes"
  | .noCertificate serial => "No certificate with serial " ++ serial
  | .notReachable => "PKI engine not reachable"
  | .failed e => e.message

/-- What carrying out a command leaves behind. -/
structure Execution where
  output : String
  complaint : Option Complaint
  requests : List Http.Request
  events : List Event

namespace Execution

def refused (c : Complaint) : Execution :=
  ⟨"", some c, [], []⟩

/-- A call was made, whose result is turned into output and perhaps a complaint. -/
def ofReport {α : Type} (r : Report α) (f : α → String × Option Complaint) : Execution :=
  match r.result with
  | .error e => ⟨"", some (.failed e), r.requests, r.events⟩
  | .ok a => ⟨(f a).1, (f a).2, r.requests, r.events⟩

def printing {α : Type} (r : Report α) (f : α → String) : Execution :=
  ofReport r fun a => (f a, none)

def silent (r : Report Unit) : Execution :=
  printing r fun _ => ""

end Execution

namespace CommandLine

def line (s : String) : String :=
  s ++ "\n"

def lines (ss : List String) : String :=
  String.join (ss.map line)

def settings (env : Environment) (inv : Invocation) (address : String) :
    Except Complaint (List Config.Setting) := do
  let server ←
    match Url.ofText address with
    | .error p => throw (.url p)
    | .ok u => pure (Config.Setting.server u)
  let inNamespace := inv.serverNamespace.toList.map Config.Setting.serverNamespace
  let trusted ←
    match inv.authorityFile with
    | none => pure []
    | some path =>
      match env.trustFile path with
      | .error p => throw (.file p)
      | .ok setting => pure [setting]
  let insecure := if inv.insecure then [Config.Setting.trust .anyone] else []
  return server :: inNamespace ++ trusted ++ insecure

def connect (env : Environment) (inv : Invocation) :
    Except Complaint (Report Client × String) := do
  let some address := inv.address | throw .noAddress
  let some token := inv.token | throw .noToken
  let settings ← settings env inv address
  let config ← (Config.ofSettings settings).mapError Complaint.failed
  return (Client.ofConfig config, token)

def nonEmpty? (ss : List String) : Option (List String) :=
  if ss.isEmpty then none else some ss

def leafOptions (commonName : Option String) (names addresses uris : List String)
    (ttl : Option String) : LeafOptions where
  commonName
  alternativeNames := {
    names := nonEmpty? names
    addresses := nonEmpty? addresses
    uris := nonEmpty? uris }
  ttl

/-- An issued certificate as it is printed: certificate, key and chain, or a record of all parts. -/
def certificateText (format : OutputFormat) (c : IssuedCertificate) : String :=
  match format with
  | .text => lines (c.certificate :: c.key.toList ++ c.chain)
  | .json => line (Json.indented (.object [
      ("ca_chain", .texts c.chain),
      ("certificate", .text c.certificate),
      ("issuing_ca", .text c.issuer),
      ("private_key", Json.orNull .text c.key),
      ("private_key_type", Json.orNull (fun k => .text (KeyType.wire k)) c.keyType),
      ("serial_number", .text c.serial)]))

/-- A label of 28 places and a value behind it, if there is one. -/
def labelled {α : Type} (label : String) (shown : α → String) : Option α → List String
  | none => []
  | some a => [label ++ String.ofList (List.replicate (28 - label.length) ' ') ++ " " ++ shown a]

/-- A role as it is printed, a line for each part that is not open. -/
def roleText (r : Role) : String :=
  lines (
    labelled "ttl" Text.quoted r.ttl ++
    labelled "max_ttl" Text.quoted r.maxTtl ++
    labelled "allowed_domains" (Text.shownList Text.quoted) r.allowedDomains ++
    labelled "allow_subdomains" Text.shownBool r.allowSubdomains ++
    labelled "allow_bare_domains" Text.shownBool r.allowBareDomains ++
    labelled "allow_any_name" Text.shownBool r.allowAnyName ++
    labelled "allow_localhost" Text.shownBool r.allowLocalhost ++
    labelled "allow_ip_sans" Text.shownBool r.allowAddresses ++
    labelled "server_flag" Text.shownBool r.serverFlag ++
    labelled "client_flag" Text.shownBool r.clientFlag ++
    labelled "key_type" KeyType.shown r.keyType ++
    labelled "key_bits" (fun n => n.toNat.repr) r.keyBits ++
    labelled "key_usage" (Text.shownList KeyUsage.shown) r.keyUsages ++
    labelled "ext_key_usage" (Text.shownList ExtendedKeyUsage.shown) r.extendedKeyUsages ++
    labelled "subject_organization" Text.quoted r.organization ++
    labelled "subject_country" Text.quoted r.country)

/-- Carries a command out once the type of key that it names is known. -/
def withKeyType (name : Option String) (f : Option KeyType → Execution) : Execution :=
  match Vocabulary.ofOptionalName name with
  | .error e => .refused (.failed e)
  | .ok keyType => f keyType

/-- Carries a command out with a way to make calls on the mount. -/
def execute (call : (c : Call) → Report c.Result) (inv : Invocation) : Execution :=
  let unlessQuiet (s : String) : String := if inv.quiet then "" else line s
  match inv.command with
  | .ca => .printing (call .readAuthority) line
  | .caChain => .printing (call .readAuthorityChain) line
  | .crl => .printing (call .readRevocationList) line
  | .rotateCrl =>
    .printing (call .rotateRevocationList) fun rebuilt =>
      unlessQuiet ("CRL rebuilt: " ++ Text.shownBool rebuilt)
  | .certs => .printing (call .listCertificates) lines
  | .cert serial =>
    .ofReport (call (.readCertificate serial)) fun
      | some certificate => (line certificate, none)
      | none => ("", some (.noCertificate serial))
  | .issue role commonName names addresses uris ttl format =>
    .printing (call (.issue role (leafOptions commonName names addresses uris ttl)))
      (certificateText format)
  | .revoke serial =>
    .printing (call (.revoke serial)) fun (i : Instant) =>
      unlessQuiet ("Revoked " ++ serial ++ " at " ++ i.toText)
  | .roles => .printing (call .listRoles) lines
  | .role name => .printing (call (.readRole name)) roleText
  | .writeRole name domains subdomains ttl maxTtl keyType keyBits =>
    withKeyType keyType fun keyType =>
      .silent (call (.writeRole name {
        allowedDomains := nonEmpty? domains
        allowSubdomains := if subdomains then some true else none
        ttl
        maxTtl
        keyType
        keyBits }))
  | .deleteRole name => .silent (call (.deleteRole name))
  | .generateRoot commonName organization country ttl keyType bits maxPathLength exported =>
    withKeyType keyType fun keyType =>
      .printing (call (.generateRoot {
          commonName := some commonName
          subject := { organization := nonEmpty? organization, country := nonEmpty? country }
          ttl
          key := { keyType, bits, exported }
          maxPathLength }))
        fun (c : RootCertificate) => lines (c.certificate :: c.key.toList)
  | .deleteRoot confirmed =>
    if confirmed then .silent (call .deleteRoot) else .refused .unconfirmedDeletion
  | .tidy store revoked safetyBuffer =>
    .silent (call (.tidy ⟨some store, some revoked, safetyBuffer⟩))
  | .enable description defaultTtl maxTtl =>
    .silent (call (.enable description ⟨defaultTtl, maxTtl⟩))
  | .disable confirmed =>
    if confirmed then .silent (call .disable) else .refused .unconfirmedUnmounting
  | .status =>
    .ofReport (call .isEnabled) fun enabled =>
      if enabled then (line (inv.mount ++ ": enabled"), none)
      else (line (inv.mount ++ ": not enabled"), some .notReachable)

def run (env : Environment) (net : Http.Network) (inv : Invocation) : Execution :=
  match connect env inv with
  | .error complaint => .refused complaint
  | .ok (report, token) =>
    match report.result with
    | .error e => ⟨"", some (.failed e), report.requests, report.events⟩
    | .ok client =>
      let done := execute
        (fun c => c.perform client net inv.mount (TokenSource.fixed token).next.1) inv
      { done with
        requests := report.requests ++ done.requests
        events := report.events ++ done.events }

/-- What a process leaves behind: its exit code, its output, and the line that says what went
wrong. -/
structure Conclusion where
  code : Nat
  output : String
  complaint : Option String
  requests : List Http.Request
  events : List Event

def toolName : String := "vault-pki"

/-- The version of the tool or of one of its commands. -/
def versionLine (command : Option String) : String :=
  match command with
  | none => line (toolName ++ " " ++ version)
  | some name => line (toolName ++ "-" ++ name ++ " " ++ version)

def conclude (env : Environment) (net : Http.Network) (words : List String) : Conclusion :=
  match read env words with
  | .error ⟨.version, command⟩ => ⟨0, versionLine command, none, [], []⟩
  | .error ⟨.help, _⟩ => ⟨0, "", none, [], []⟩
  | .error ⟨.usage, _⟩ => ⟨2, "", none, [], []⟩
  | .ok inv =>
    let e := run env net inv
    ⟨if e.complaint.isNone then 0 else 1, e.output, e.complaint.map Complaint.message, e.requests,
      e.events⟩

end CommandLine

end VaultPki
