import VaultPki.Authority.Installation
import VaultPki.Authority.Intermediate
import VaultPki.Authority.Root
import VaultPki.Certificate.Issuance
import VaultPki.Certificate.Revocation
import VaultPki.Certificate.Signing
import VaultPki.Certificate.Store
import VaultPki.Envelope
import VaultPki.Mount.Enabling
import VaultPki.Mount.Settings
import VaultPki.Role.Stored

/-!
# The records of the wire

Every type of records that is exchanged with the server has a name here, so that a statement can be
about all of them: the records that answers carry, alone or in an envelope, and those that are only
sent, with the fragments that they spread.
-/

namespace VaultPki

open Record

/-- The records that answers carry. -/
inductive AnswerRecord where
  | storedCertificate
  | listing
  | issuance
  | signing
  | revocation
  | publishedUrls
  | revocationListSettings
  | rotation
  | storedRole
  | root
  | request
  deriving DecidableEq, Repr

namespace AnswerRecord

def Data : AnswerRecord → Type
  | storedCertificate => StoredCertificate
  | listing => Listing
  | issuance => Issuance.Data
  | signing => Signing.Data
  | revocation => Revocation.Data
  | publishedUrls => PublishedUrls
  | revocationListSettings => RevocationListSettings
  | rotation => Rotation
  | storedRole => StoredRole
  | root => RootGeneration.Data
  | request => RequestGeneration.Data

def layout : (k : AnswerRecord) → Layout k.Data
  | storedCertificate => StoredCertificate.layout
  | listing => Listing.layout
  | issuance => Issuance.Data.layout
  | signing => Signing.Data.layout
  | revocation => Revocation.Data.layout
  | publishedUrls => PublishedUrls.layout
  | revocationListSettings => RevocationListSettings.layout
  | rotation => Rotation.layout
  | storedRole => StoredRole.layout
  | root => RootGeneration.Data.layout
  | request => RequestGeneration.Data.layout

/-- The envelope around such a record. -/
def envelope (k : AnswerRecord) : Layout (Envelope k.Data) :=
  Envelope.layout k.layout.codec

end AnswerRecord

/-- The records that are exchanged with the server. -/
inductive WireRecord where
  | answer (k : AnswerRecord)
  | envelope (k : AnswerRecord)
  | alternativeNames
  | subject
  | issuanceBody
  | signingBody
  | revocationBody
  | authorityBundle
  | tidying
  | rootBody
  | requestBody
  | intermediateBody
  | signedIntermediate
  | leases
  | enabling
  deriving DecidableEq, Repr

namespace WireRecord

def Value : WireRecord → Type
  | answer k => k.Data
  | envelope k => Envelope k.Data
  | alternativeNames => AlternativeNames.Wire
  | subject => Subject
  | issuanceBody => Issuance.Body
  | signingBody => Signing.Body
  | revocationBody => Revocation.Body
  | authorityBundle => AuthorityBundle
  | tidying => TidyOptions
  | rootBody => RootGeneration.Body
  | requestBody => RequestGeneration.Body
  | intermediateBody => IntermediateSigning.Body
  | signedIntermediate => SignedIntermediate
  | leases => LeaseOptions
  | enabling => Enabling

def layout : (k : WireRecord) → Layout k.Value
  | answer k => k.layout
  | envelope k => k.envelope
  | alternativeNames => AlternativeNames.Wire.layout
  | subject => Subject.layout
  | issuanceBody => Issuance.Body.layout
  | signingBody => Signing.Body.layout
  | revocationBody => Revocation.Body.layout
  | authorityBundle => AuthorityBundle.layout
  | tidying => TidyOptions.layout
  | rootBody => RootGeneration.Body.layout
  | requestBody => RequestGeneration.Body.layout
  | intermediateBody => IntermediateSigning.Body.layout
  | signedIntermediate => SignedIntermediate.layout
  | leases => LeaseOptions.layout
  | enabling => Enabling.layout

end WireRecord

end VaultPki
