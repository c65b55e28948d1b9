import VaultPki.Authority.Subject
import VaultPki.Certificate.Issuance

/-!
# Root authorities

The server makes a key and a certificate that signs itself. The key stays with the server unless it
is asked for, which the path of the request says and not its body.
-/

namespace VaultPki

open Record

/-- How the key of an authority is made. -/
structure KeyGeneration where
  keyType : Option KeyType := none
  bits : Option UInt32 := none
  exported : Bool := false
  deriving DecidableEq

/-- The segment of the path that says whether the key is given out. -/
def KeyGeneration.segment (k : KeyGeneration) : String :=
  if k.exported then "exported" else "internal"

/-- What a root authority is asked for. -/
structure RootOptions where
  commonName : Option String := none
  subject : Subject := {}
  alternativeNames : AlternativeNames := {}
  ttl : Option String := none
  key : KeyGeneration := {}
  maxPathLength : Option Int32 := none
  permittedDomains : Option (List String) := none
  deriving DecidableEq

structure RootCertificate where
  serial : String
  certificate : String
  issuer : String
  keyType : Option KeyType
  key : Option String
  deriving DecidableEq

/-- A certificate as it is shown, without its key. -/
def RootCertificate.shown (c : RootCertificate) : String :=
  Text.shownRecord "GeneratedRootCertificate" [
    ("serial_number", Text.quoted c.serial),
    ("private_key_type", Text.shownOption KeyType.shown c.keyType),
    ("private_key", Text.shownBool c.key.isSome)]

namespace RootGeneration

structure Body where
  commonName : Option String
  subject : Subject
  alternativeNames : AlternativeNames.Wire
  ttl : Option String
  keyType : Option String
  bits : Option UInt32
  maxPathLength : Option Int32
  permittedDomains : Option (List String)
  format : Option String
  keyFormat : Option String
  deriving DecidableEq

def Body.layout : Layout Body where
  own := [
    .optional "common_name" .text,
    .optional "ttl" .text,
    .optional "key_type" .text,
    .optional "key_bits" .uint32,
    .optional "max_path_length" .int32,
    .optional "permitted_dns_domains" (.list .text),
    .optional "format" .text,
    .optional "private_key_format" .text]
  spread := Subject.fields ++ AlternativeNames.Wire.fields
  row b :=
    ((b.commonName, b.ttl, b.keyType, b.bits, b.maxPathLength, b.permittedDomains, b.format,
      b.keyFormat, ()), b.subject.row.append b.alternativeNames.row)
  ofRow := fun ((commonName, ttl, keyType, bits, maxPathLength, permittedDomains, format,
      keyFormat, ()), rest) =>
    ⟨commonName, .ofRow (rest.left Subject.fields), .ofRow (rest.right Subject.fields), ttl,
      keyType, bits, maxPathLength, permittedDomains, format, keyFormat⟩

def Body.ofOptions (o : RootOptions) : Body where
  commonName := o.commonName
  subject := o.subject
  alternativeNames := o.alternativeNames.wire
  ttl := o.ttl
  keyType := o.key.keyType.map KeyType.wire
  bits := o.key.bits
  maxPathLength := o.maxPathLength
  permittedDomains := o.permittedDomains
  format := some certificateFormat
  keyFormat := some VaultPki.keyFormat

structure Data where
  certificate : String
  issuer : String
  serial : String
  keyType : Option String
  key : Option String
  deriving DecidableEq

def Data.layout : Layout Data :=
  .plain [
      .defaulted "certificate" .text "",
      .defaulted "issuing_ca" .text "",
      .defaulted "serial_number" .text "",
      .nullable "private_key_type" .text,
      .nullable "private_key" .text]
    (fun d => (d.certificate, d.issuer, d.serial, d.keyType, d.key, ()))
    (fun (certificate, issuer, serial, keyType, key, ()) =>
      ⟨certificate, issuer, serial, keyType, key⟩)
    (fun _ => rfl) (fun _ => rfl)

def Data.toCertificate (d : Data) : Except Error RootCertificate := do
  let keyType ← Vocabulary.ofOptionalName d.keyType
  return {
    serial := d.serial
    certificate := d.certificate
    issuer := d.issuer
    keyType
    key := presentKey? d.key }

end RootGeneration

end VaultPki
