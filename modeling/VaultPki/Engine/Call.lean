import VaultPki.Authority.Installation
import VaultPki.Authority.Intermediate
import VaultPki.Certificate.Revocation
import VaultPki.Certificate.Store
import VaultPki.Engine.Operation
import VaultPki.Mount.Enabling
import VaultPki.Mount.Settings
import VaultPki.Role.Stored

/-!
# Calls of an engine

Everything that can be asked of the engine at a mount, or about the mount itself, with the type of
its result and the operation that carries it out.
-/

namespace VaultPki

open Record

/-- Something that is asked of the engine at a mount. -/
inductive Call where
  | readAuthority
  | readAuthorityChain
  | readRevocationList
  | readCertificate (serial : String)
  | listCertificates
  | issue (role : String) (options : LeafOptions)
  | sign (role request : String) (options : LeafOptions)
  | revoke (serial : String)
  | installBundle (pem : String)
  | rotateRevocationList
  | writeUrls (urls : PublishedUrls)
  | readUrls
  | writeRevocationListSettings (settings : RevocationListSettings)
  | readRevocationListSettings
  | tidy (options : TidyOptions)
  | writeRole (name : String) (role : Role)
  | readRole (name : String)
  | listRoles
  | deleteRole (name : String)
  | generateRoot (options : RootOptions)
  | deleteRoot
  | signIntermediate (request : String) (options : IntermediateOptions)
  | generateRequest (options : RequestOptions)
  | installIntermediate (certificate : String)
  | enable (description : String) (leases : LeaseOptions)
  | disable
  | isEnabled

namespace Call

abbrev Result : Call → Type
  | readAuthority | readAuthorityChain | readRevocationList => String
  | readCertificate _ => Option String
  | listCertificates | listRoles => List String
  | issue _ _ => IssuedCertificate
  | sign _ _ _ | signIntermediate _ _ => SignedCertificate
  | revoke _ => Instant
  | rotateRevocationList | isEnabled => Bool
  | readUrls => PublishedUrls
  | readRevocationListSettings => RevocationListSettings
  | readRole _ => Role
  | generateRoot _ => RootCertificate
  | generateRequest _ => IntermediateRequest
  | installBundle _ | writeUrls _ | writeRevocationListSettings _ | tidy _ | writeRole _ _
  | deleteRole _ | deleteRoot | installIntermediate _ | enable _ _ | disable => Unit

def trimMount (mount : String) : String :=
  Text.trimBoth (· == '/') mount

def mountPath (mount path : String) : String :=
  trimMount mount ++ "/" ++ path

def systemPath (mount : String) : String :=
  "sys/mounts/" ++ trimMount mount

/-- What a fixed serial number stands for, which must be there. -/
def fixed (mount serial : String) (stored : StoredCertificate) : Except Error String :=
  match stored.present? with
  | some certificate => .ok certificate
  | none => .error (.noData ("No " ++ serial ++ " stored in " ++ mount))

def reading {α β : Type} (verb : Verb) (path : String) (layout : Layout β)
    (f : β → Except Error α) : Operation α :=
  ⟨verb, path, none, .data layout.codec f, fun _ => none⟩

/-- An operation that writes a record and reads data. -/
def asking {α β ρ : Type} (path : String) (body : Layout ρ) (r : ρ) (layout : Layout β)
    (f : β → Except Error α) : Operation α :=
  ⟨.write, path, some (body.write r), .data layout.codec f, fun _ => none⟩

def writing {ρ : Type} (path : String) (body : Layout ρ) (r : ρ) (expected : Nat) :
    Operation Unit :=
  ⟨.write, path, some (body.write r), .confirmation expected (), fun _ => none⟩

/-- An operation that deletes what stands under a path. -/
def deleting (path : String) : Operation Unit :=
  ⟨.delete, path, none, .confirmation 204 (), fun _ => none⟩

def noting {α : Type} (mount : String) (deed : α → Deed) (op : Operation α) : Operation α :=
  { op with deed := fun a => some (.done (deed a) mount) }

/-- The operation that reads under a fixed serial number. -/
def readingFixed (mount serial : String) : Operation String :=
  reading .read (mountPath mount ("cert/" ++ serial)) StoredCertificate.layout (fixed mount serial)

/-- The operation that lists roles; no role has ever been written where there is no such path. -/
def listingRoles (mount : String) : Operation (List String) :=
  { verb := .list
    path := mountPath mount "roles"
    body := none
    exit := .dataOr Listing.layout.codec (fun l => .ok l.keys) [] (.noRoles mount)
    deed := fun _ => none }

/-- The operation of a call on a mount. The engine is taken to be there if the addresses that it
publishes can be read. -/
def operation (mount : String) : (c : Call) → Operation c.Result
  | readAuthority => readingFixed mount Serial.authority
  | readAuthorityChain => readingFixed mount Serial.authorityChain
  | readRevocationList => readingFixed mount Serial.revocationList
  | readCertificate serial =>
    reading .read (mountPath mount ("cert/" ++ serial)) StoredCertificate.layout
      fun stored => .ok stored.present?
  | listCertificates =>
    reading .list (mountPath mount "certs") Listing.layout fun l => .ok l.serials
  | issue role o =>
    asking (mountPath mount ("issue/" ++ role)) Issuance.Body.layout (.ofOptions o)
      Issuance.Data.layout Issuance.Data.toCertificate
  | sign role request o =>
    asking (mountPath mount ("sign/" ++ role)) Signing.Body.layout (.ofOptions request o)
      Signing.Data.layout fun d => .ok d.toCertificate
  | revoke serial =>
    asking (mountPath mount "revoke") Revocation.Body.layout ⟨serial⟩ Revocation.Data.layout
      Revocation.Data.toInstant
  | installBundle pem =>
    noting mount (fun _ => .installedBundle)
      (writing (mountPath mount "config/ca") AuthorityBundle.layout ⟨pem⟩ 204)
  | rotateRevocationList =>
    reading .read (mountPath mount "crl/rotate") Rotation.layout fun d => .ok d.success
  | writeUrls urls => writing (mountPath mount "config/urls") PublishedUrls.layout urls 204
  | readUrls => reading .read (mountPath mount "config/urls") PublishedUrls.layout .ok
  | writeRevocationListSettings s =>
    writing (mountPath mount "config/crl") RevocationListSettings.layout s 204
  | readRevocationListSettings =>
    reading .read (mountPath mount "config/crl") RevocationListSettings.layout .ok
  | tidy o => writing (mountPath mount "tidy") TidyOptions.layout o 202
  | writeRole name role =>
    writing (mountPath mount ("roles/" ++ name)) StoredRole.layout role.stored 204
  | readRole name =>
    reading .read (mountPath mount ("roles/" ++ name)) StoredRole.layout StoredRole.toRole
  | listRoles => listingRoles mount
  | deleteRole name => deleting (mountPath mount ("roles/" ++ name))
  | generateRoot o =>
    noting mount (fun (c : RootCertificate) => .generatedRoot c.serial)
      (asking (mountPath mount ("root/generate/" ++ o.key.segment)) RootGeneration.Body.layout
        (.ofOptions o) RootGeneration.Data.layout RootGeneration.Data.toCertificate)
  | deleteRoot => noting mount (fun _ => .deletedRoot) (deleting (mountPath mount "root"))
  | signIntermediate request o =>
    asking (mountPath mount "root/sign-intermediate") IntermediateSigning.Body.layout
      (.ofOptions request o) Signing.Data.layout fun d => .ok d.toCertificate
  | generateRequest o =>
    asking (mountPath mount ("intermediate/generate/" ++ o.key.segment))
      RequestGeneration.Body.layout (.ofOptions o) RequestGeneration.Data.layout
      RequestGeneration.Data.toRequest
  | installIntermediate certificate =>
    noting mount (fun _ => .installedIntermediate)
      (writing (mountPath mount "intermediate/set-signed") SignedIntermediate.layout ⟨certificate⟩
        204)
  | enable description leases =>
    noting mount (fun _ => .enabled)
      (writing (systemPath mount) Enabling.layout (.ofOptions description leases) 204)
  | disable => noting mount (fun _ => .disabled) (deleting (systemPath mount))
  | isEnabled =>
    reading .read (mountPath mount "config/urls") PublishedUrls.layout fun _ => .ok true

/-- The report of a call. An engine that cannot be asked is taken not to be there. -/
def settle (mount : String) : (c : Call) → Report c.Result → Report c.Result
  | isEnabled, r =>
    match r.result with
    | .ok enabled => ⟨.ok enabled, r.requests, r.events⟩
    | .error e => ⟨.ok false, r.requests, r.events ++ [.probeFailed mount e]⟩
  | _, r => r

/-- Carries a call out, given the answer of the source of tokens. -/
def perform (call : Call) (c : Client) (net : Http.Network) (mount : String)
    (token : Except Error String) : Report call.Result :=
  call.settle mount do
    let t ← token
    (call.operation mount).perform c net t

end Call

end VaultPki
