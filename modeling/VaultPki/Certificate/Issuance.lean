import VaultPki.Certificate.AlternativeNames
import VaultPki.Name.KeyType
import VaultPki.Text.Quoted

/-!
# Issuing certificates

The server makes a key and a certificate for it under a role. The key comes back with the
certificate, and is left out where the certificate is shown.
-/

namespace VaultPki

open Record

/-- What a certificate is asked for; without a lifetime the one of the role counts. -/
structure LeafOptions where
  commonName : Option String := none
  alternativeNames : AlternativeNames := {}
  ttl : Option String := none
  deriving DecidableEq

def LeafOptions.ofCommonName (name : String) : LeafOptions :=
  { commonName := some name }

/-- A private key, unless it is the empty text. -/
def presentKey? (key : Option String) : Option String :=
  key.filter fun k => k != ""

structure IssuedCertificate where
  serial : String
  certificate : String
  issuer : String
  chain : List String
  keyType : Option KeyType
  key : Option String
  deriving DecidableEq

/-- A certificate as it is shown, without its key. -/
def IssuedCertificate.shown (c : IssuedCertificate) : String :=
  Text.shownRecord "GeneratedCertificate" [
    ("serial_number", Text.quoted c.serial),
    ("ca_chain", c.chain.length.repr),
    ("private_key_type", Text.shownOption KeyType.shown c.keyType),
    ("private_key", Text.shownBool c.key.isSome)]

namespace Issuance

structure Body where
  commonName : Option String
  alternativeNames : AlternativeNames.Wire
  ttl : Option String
  format : Option String
  keyFormat : Option String
  deriving DecidableEq

def Body.layout : Layout Body where
  own := [
    .optional "common_name" .text,
    .optional "ttl" .text,
    .optional "format" .text,
    .optional "private_key_format" .text]
  spread := AlternativeNames.Wire.fields
  row b := ((b.commonName, b.ttl, b.format, b.keyFormat, ()), b.alternativeNames.row)
  ofRow := fun ((commonName, ttl, format, keyFormat, ()), names) =>
    ⟨commonName, .ofRow names, ttl, format, keyFormat⟩

def Body.ofOptions (o : LeafOptions) : Body where
  commonName := o.commonName
  alternativeNames := o.alternativeNames.wire
  ttl := o.ttl
  format := some certificateFormat
  keyFormat := some VaultPki.keyFormat

structure Data where
  certificate : String
  issuer : String
  chain : Option (List String)
  serial : String
  keyType : Option String
  key : Option String
  deriving DecidableEq

def Data.layout : Layout Data :=
  .plain [
      .defaulted "certificate" .text "",
      .defaulted "issuing_ca" .text "",
      .nullable "ca_chain" (.list .text),
      .defaulted "serial_number" .text "",
      .nullable "private_key_type" .text,
      .nullable "private_key" .text]
    (fun d => (d.certificate, d.issuer, d.chain, d.serial, d.keyType, d.key, ()))
    (fun (certificate, issuer, chain, serial, keyType, key, ()) =>
      ⟨certificate, issuer, chain, serial, keyType, key⟩)
    (fun _ => rfl) (fun _ => rfl)

def Data.toCertificate (d : Data) : Except Error IssuedCertificate := do
  let keyType ← Vocabulary.ofOptionalName d.keyType
  return {
    serial := d.serial
    certificate := d.certificate
    issuer := d.issuer
    chain := d.chain.getD []
    keyType
    key := presentKey? d.key }

end Issuance

end VaultPki
