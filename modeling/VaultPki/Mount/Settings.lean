import VaultPki.Record.Layout

/-!
# Settings of a mount

The addresses that certificates carry, the list of revoked certificates, and the tidying of the
store. Addresses and list are the same on the wire as in the model.
-/

namespace VaultPki

open Record

/-- The addresses that a mount publishes: of the certificate that issues, of lists of revoked
certificates, and of servers that tell the status of one. -/
structure PublishedUrls where
  issuers : Option (List String)
  revocationLists : Option (List String)
  statusServers : Option (List String)
  deriving DecidableEq

def PublishedUrls.layout : Layout PublishedUrls :=
  .plain [
      .optionalLast "issuing_certificates" (.list .text),
      .optionalLast "crl_distribution_points" (.list .text),
      .optionalLast "ocsp_servers" (.list .text)]
    (fun u => (u.issuers, u.revocationLists, u.statusServers, ()))
    (fun (issuers, revocationLists, statusServers, ()) =>
      ⟨issuers, revocationLists, statusServers⟩)
    (fun _ => rfl) (fun _ => rfl)

/-- How long a list of revoked certificates is valid, and whether none is made. -/
structure RevocationListSettings where
  expiry : Option String
  disable : Option Bool
  deriving DecidableEq

/-- Settings on the wire. The server may give the expiry in seconds. -/
def RevocationListSettings.layout : Layout RevocationListSettings :=
  .plain [.duration "expiry", .optionalLast "disable" .flag] (fun s => (s.expiry, s.disable, ()))
    (fun (expiry, disable, ()) => ⟨expiry, disable⟩) (fun _ => rfl) (fun _ => rfl)

/-- What is tidied: the store of certificates, the list of revoked ones, and how long after their
expiry they are kept. -/
structure TidyOptions where
  store : Option Bool
  revoked : Option Bool
  safetyBuffer : Option String
  deriving DecidableEq

def TidyOptions.layout : Layout TidyOptions :=
  .plain [
      .optional "tidy_cert_store" .flag,
      .optional "tidy_revoked_certs" .flag,
      .optional "safety_buffer" .text]
    (fun o => (o.store, o.revoked, o.safetyBuffer, ()))
    (fun (store, revoked, safetyBuffer, ()) => ⟨store, revoked, safetyBuffer⟩)
    (fun _ => rfl) (fun _ => rfl)

end VaultPki
