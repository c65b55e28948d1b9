import VaultPki.Error
import VaultPki.Pem.Section

/-!
# Certificates and identities in PEM

What a client needs from PEM texts: the certificates of a bundle, and whether a certificate and a
private key together can serve as an identity.
-/

namespace VaultPki.Pem

/-- The certificates of a bundle in order. Whatever else it holds is passed over. -/
def certificates (text : List UInt8) : List (List UInt8) :=
  (sections text).filterMap fun s =>
    match s with
    | some ⟨.certificate, content⟩ => some content
    | _ => none

/-- The certificates of a bundle, of which there must be one. -/
def requireCertificates (text : List UInt8) : Except Error (List (List UInt8)) :=
  match certificates text with
  | [] => .error .noCertificates
  | found => .ok found

/-- Whether a section may stand in the text of an identity. -/
def suitsIdentity : Option Section → Bool
  | none => false
  | some s => s.kind == .certificate || s.kind.isKey

/-- Whether a text holds nothing but certificates and private keys, and at least one of each. -/
def isIdentity (text : List UInt8) : Bool :=
  let found := sections text
  found.all suitsIdentity &&
    found.any (fun s => (s.map Section.kind) == some .certificate) &&
    found.any (fun s => (s.map fun s => s.kind.isKey) == some true)

end VaultPki.Pem
