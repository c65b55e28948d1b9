import VaultPki.Name.Vocabulary

/-!
# Usages of keys

What the key of a certificate may be used for: the basic usages, and the extended ones that name an
application.
-/

namespace VaultPki

/-- A basic usage. -/
inductive KeyUsage where
  | digitalSignature
  | contentCommitment
  | keyEncipherment
  | dataEncipherment
  | keyAgreement
  | certSign
  | crlSign
  | encipherOnly
  | decipherOnly
  deriving DecidableEq, Repr

namespace KeyUsage

def name : KeyUsage → String
  | .digitalSignature => "DigitalSignature"
  | .contentCommitment => "ContentCommitment"
  | .keyEncipherment => "KeyEncipherment"
  | .dataEncipherment => "DataEncipherment"
  | .keyAgreement => "KeyAgreement"
  | .certSign => "CertSign"
  | .crlSign => "CRLSign"
  | .encipherOnly => "EncipherOnly"
  | .decipherOnly => "DecipherOnly"

instance : Vocabulary KeyUsage where
  subject := "key usage"
  values := [.digitalSignature, .contentCommitment, .keyEncipherment, .dataEncipherment,
    .keyAgreement, .certSign, .crlSign, .encipherOnly, .decipherOnly]
  name := name

instance : ToString KeyUsage :=
  ⟨name⟩

def shown : KeyUsage → String
  | .crlSign => "CrlSign"
  | usage => usage.name

end KeyUsage

/-- An extended usage. -/
inductive ExtendedKeyUsage where
  | any
  | serverAuth
  | clientAuth
  | codeSigning
  | emailProtection
  | ipsecEndSystem
  | ipsecTunnel
  | ipsecUser
  | timeStamping
  | ocspSigning
  | microsoftServerGatedCrypto
  | netscapeServerGatedCrypto
  | microsoftCommercialCodeSigning
  | microsoftKernelCodeSigning
  deriving DecidableEq, Repr

namespace ExtendedKeyUsage

def name : ExtendedKeyUsage → String
  | .any => "Any"
  | .serverAuth => "ServerAuth"
  | .clientAuth => "ClientAuth"
  | .codeSigning => "CodeSigning"
  | .emailProtection => "EmailProtection"
  | .ipsecEndSystem => "IPSECEndSystem"
  | .ipsecTunnel => "IPSECTunnel"
  | .ipsecUser => "IPSECUser"
  | .timeStamping => "TimeStamping"
  | .ocspSigning => "OCSPSigning"
  | .microsoftServerGatedCrypto => "MicrosoftServerGatedCrypto"
  | .netscapeServerGatedCrypto => "NetscapeServerGatedCrypto"
  | .microsoftCommercialCodeSigning => "MicrosoftCommercialCodeSigning"
  | .microsoftKernelCodeSigning => "MicrosoftKernelCodeSigning"

instance : Vocabulary ExtendedKeyUsage where
  subject := "extended key usage"
  values := [.any, .serverAuth, .clientAuth, .codeSigning, .emailProtection, .ipsecEndSystem,
    .ipsecTunnel, .ipsecUser, .timeStamping, .ocspSigning, .microsoftServerGatedCrypto,
    .netscapeServerGatedCrypto, .microsoftCommercialCodeSigning, .microsoftKernelCodeSigning]
  name := name

instance : ToString ExtendedKeyUsage :=
  ⟨name⟩

def shown : ExtendedKeyUsage → String
  | .ipsecEndSystem => "IpsecEndSystem"
  | .ipsecTunnel => "IpsecTunnel"
  | .ipsecUser => "IpsecUser"
  | .ocspSigning => "OcspSigning"
  | usage => usage.name

end ExtendedKeyUsage

end VaultPki
