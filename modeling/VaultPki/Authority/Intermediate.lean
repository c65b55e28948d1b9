import VaultPki.Authority.Root
import VaultPki.Certificate.Signing

/-!
# Intermediate authorities

An intermediate authority comes into being in three steps: one mount makes a key and a request,
another signs the request, and the first installs the certificate.
-/

namespace VaultPki

open Record

/-- What a request for an intermediate authority is asked for. -/
structure RequestOptions where
  commonName : Option String
  subject : Subject
  alternativeNames : AlternativeNames
  key : KeyGeneration
  deriving DecidableEq

structure IntermediateRequest where
  request : String
  keyType : Option KeyType
  key : Option String
  deriving DecidableEq

/-- A request as it is shown, without its key. -/
def IntermediateRequest.shown (r : IntermediateRequest) : String :=
  Text.shownRecord "GeneratedIntermediateCsr" [
    ("private_key_type", Text.shownOption KeyType.shown r.keyType),
    ("private_key", Text.shownBool r.key.isSome)]

/-- What the signature on a request for an intermediate authority is asked for. -/
structure IntermediateOptions where
  commonName : Option String
  subject : Subject
  alternativeNames : AlternativeNames
  ttl : Option String
  maxPathLength : Option Int32
  keepRequested : Option Bool
  permittedDomains : Option (List String)
  deriving DecidableEq

namespace RequestGeneration

structure Body where
  commonName : Option String
  subject : Subject
  alternativeNames : AlternativeNames.Wire
  keyType : Option String
  bits : Option UInt32
  format : Option String
  keyFormat : Option String
  deriving DecidableEq

def Body.layout : Layout Body where
  own := [
    .optional "common_name" .text,
    .optional "key_type" .text,
    .optional "key_bits" .uint32,
    .optional "format" .text,
    .optional "private_key_format" .text]
  spread := Subject.fields ++ AlternativeNames.Wire.fields
  row b :=
    ((b.commonName, b.keyType, b.bits, b.format, b.keyFormat, ()),
      b.subject.row.append b.alternativeNames.row)
  ofRow := fun ((commonName, keyType, bits, format, keyFormat, ()), rest) =>
    ⟨commonName, .ofRow (rest.left Subject.fields), .ofRow (rest.right Subject.fields), keyType,
      bits, format, keyFormat⟩

def Body.ofOptions (o : RequestOptions) : Body where
  commonName := o.commonName
  subject := o.subject
  alternativeNames := o.alternativeNames.wire
  keyType := o.key.keyType.map KeyType.wire
  bits := o.key.bits
  format := some certificateFormat
  keyFormat := some VaultPki.keyFormat

structure Data where
  request : String
  keyType : Option String
  key : Option String
  deriving DecidableEq

def Data.layout : Layout Data :=
  .plain [
      .defaulted "csr" .text "",
      .nullable "private_key_type" .text,
      .nullable "private_key" .text]
    (fun d => (d.request, d.keyType, d.key, ()))
    (fun (request, keyType, key, ()) => ⟨request, keyType, key⟩) (fun _ => rfl) (fun _ => rfl)

def Data.toRequest (d : Data) : Except Error IntermediateRequest := do
  let keyType ← Vocabulary.ofOptionalName d.keyType
  return { request := d.request, keyType, key := presentKey? d.key }

end RequestGeneration

namespace IntermediateSigning

structure Body where
  request : String
  commonName : Option String
  subject : Subject
  alternativeNames : AlternativeNames.Wire
  ttl : Option String
  maxPathLength : Option Int32
  keepRequested : Option Bool
  permittedDomains : Option (List String)
  format : Option String
  deriving DecidableEq

def Body.layout : Layout Body where
  own := [
    .required "csr" .text,
    .optional "common_name" .text,
    .optional "ttl" .text,
    .optional "max_path_length" .int32,
    .optional "use_csr_values" .flag,
    .optional "permitted_dns_domains" (.list .text),
    .optional "format" .text]
  spread := Subject.fields ++ AlternativeNames.Wire.fields
  row b :=
    ((b.request, b.commonName, b.ttl, b.maxPathLength, b.keepRequested, b.permittedDomains,
      b.format, ()), b.subject.row.append b.alternativeNames.row)
  ofRow := fun ((request, commonName, ttl, maxPathLength, keepRequested, permittedDomains,
      format, ()), rest) =>
    ⟨request, commonName, .ofRow (rest.left Subject.fields), .ofRow (rest.right Subject.fields),
      ttl, maxPathLength, keepRequested, permittedDomains, format⟩

/-- The body that asks for a signature by the authority of the mount. -/
def Body.ofOptions (request : String) (o : IntermediateOptions) : Body where
  request
  commonName := o.commonName
  subject := o.subject
  alternativeNames := o.alternativeNames.wire
  ttl := o.ttl
  maxPathLength := o.maxPathLength
  keepRequested := o.keepRequested
  permittedDomains := o.permittedDomains
  format := some certificateFormat

end IntermediateSigning

end VaultPki
