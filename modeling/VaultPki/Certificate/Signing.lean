import VaultPki.Certificate.Issuance

/-!
# Signing requests

The server signs a request whose key the caller keeps, so the answer holds no key.
-/

namespace VaultPki

open Record

structure SignedCertificate where
  serial : String
  certificate : String
  issuer : String
  chain : List String
  deriving DecidableEq

namespace Signing

structure Body where
  request : String
  commonName : Option String
  alternativeNames : AlternativeNames.Wire
  ttl : Option String
  format : Option String
  deriving DecidableEq

def Body.layout : Layout Body where
  own := [
    .required "csr" .text,
    .optional "common_name" .text,
    .optional "ttl" .text,
    .optional "format" .text]
  spread := AlternativeNames.Wire.fields
  row b := ((b.request, b.commonName, b.ttl, b.format, ()), b.alternativeNames.row)
  ofRow := fun ((request, commonName, ttl, format, ()), names) =>
    ⟨request, commonName, .ofRow names, ttl, format⟩

def Body.ofOptions (request : String) (o : LeafOptions) : Body where
  request
  commonName := o.commonName
  alternativeNames := o.alternativeNames.wire
  ttl := o.ttl
  format := some certificateFormat

structure Data where
  certificate : String
  issuer : String
  chain : Option (List String)
  serial : String
  deriving DecidableEq

def Data.layout : Layout Data :=
  .plain [
      .defaulted "certificate" .text "",
      .defaulted "issuing_ca" .text "",
      .nullable "ca_chain" (.list .text),
      .defaulted "serial_number" .text ""]
    (fun d => (d.certificate, d.issuer, d.chain, d.serial, ()))
    (fun (certificate, issuer, chain, serial, ()) => ⟨certificate, issuer, chain, serial⟩)
    (fun _ => rfl) (fun _ => rfl)

def Data.toCertificate (d : Data) : SignedCertificate where
  serial := d.serial
  certificate := d.certificate
  issuer := d.issuer
  chain := d.chain.getD []

end Signing

end VaultPki
