import VaultPki.Record.Layout
import VaultPki.Text.Blank

/-!
# Stored certificates

What a mount stores can be read by serial number and listed. Under three fixed serial numbers stand
the certificate of its authority, the chain and the list of revoked certificates. A listing gives
serial numbers with hyphens; they are surfaced with colons, as in certificates.
-/

namespace VaultPki

open Record

namespace Serial

def authority : String := "ca"

def authorityChain : String := "ca_chain"

def revocationList : String := "crl"

/-- A serial number with colons in the place of hyphens. -/
def withColons (serial : String) : String :=
  String.ofList (serial.toList.map fun c => if c = '-' then ':' else c)

end Serial

/-- The data of an answer to reading a certificate. -/
structure StoredCertificate where
  certificate : Option String
  deriving DecidableEq

namespace StoredCertificate

def layout : Layout StoredCertificate :=
  .plain [.nullable "certificate" .text] (fun d => (d.certificate, ()))
    (fun (certificate, ()) => ⟨certificate⟩) (fun _ => rfl) (fun _ => rfl)

/-- The certificate; a text of blanks stands for none. -/
def present? (d : StoredCertificate) : Option String :=
  d.certificate.filter fun c => !Text.isBlankText c

end StoredCertificate

/-- The data of an answer to listing. -/
structure Listing where
  keys : List String
  deriving DecidableEq

namespace Listing

def layout : Layout Listing :=
  .plain [.defaulted "keys" (.list .text) []] (fun d => (d.keys, ()))
    (fun (keys, ()) => ⟨keys⟩) (fun _ => rfl) (fun _ => rfl)

def serials (d : Listing) : List String :=
  d.keys.map Serial.withColons

end Listing

end VaultPki
