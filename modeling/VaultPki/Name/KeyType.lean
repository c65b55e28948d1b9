import VaultPki.Name.Vocabulary

/-!
# Types of private keys

A key type has a name in capitals; in requests it is written in small letters.
-/

namespace VaultPki

/-- The type of a private key; a role may leave it open. -/
inductive KeyType where
  | rsa
  | ec
  | ed25519
  | any
  deriving DecidableEq, Repr

namespace KeyType

/-- The name in capitals. -/
def name : KeyType → String
  | .rsa => "RSA"
  | .ec => "EC"
  | .ed25519 => "ED25519"
  | .any => "ANY"

instance : Vocabulary KeyType where
  subject := "key type"
  values := [.rsa, .ec, .ed25519, .any]
  name := name

instance : ToString KeyType :=
  ⟨name⟩

def wire (k : KeyType) : String :=
  Text.Ascii.lower k.name

def shown : KeyType → String
  | .rsa => "Rsa"
  | .ec => "Ec"
  | .ed25519 => "Ed25519"
  | .any => "Any"

end KeyType

end VaultPki
