import VaultPki.Base64
import VaultPki.Text.Utf8

/-!
# Sections of a PEM text

A section begins with a line such as `-----BEGIN CERTIFICATE-----` and ends with the line
`-----END CERTIFICATE-----`; between them stand bytes in Base64. A second beginning inside a section
changes its label and keeps what has been collected. Sections with unknown labels are passed over,
and one that cannot be read does not stop the reading of those behind it.
-/

namespace VaultPki.Pem

/-- What a section holds. -/
inductive Kind where
  | certificate
  | publicKey
  | privateKey
  | rsaPrivateKey
  | ecPrivateKey
  | revocationList
  | certificateRequest
  | echConfig
  deriving DecidableEq

namespace Kind

def all : List Kind :=
  [.certificate, .publicKey, .privateKey, .rsaPrivateKey, .ecPrivateKey, .revocationList,
    .certificateRequest, .echConfig]

def label : Kind → String
  | .certificate => "CERTIFICATE"
  | .publicKey => "PUBLIC KEY"
  | .privateKey => "PRIVATE KEY"
  | .rsaPrivateKey => "RSA PRIVATE KEY"
  | .ecPrivateKey => "EC PRIVATE KEY"
  | .revocationList => "X509 CRL"
  | .certificateRequest => "CERTIFICATE REQUEST"
  | .echConfig => "ECHCONFIG"

def ofLabel? (label : List UInt8) : Option Kind :=
  all.find? fun k => Text.Utf8.encode k.label == label

/-- Whether a section of this kind holds a private key. -/
def isKey : Kind → Bool
  | .privateKey | .rsaPrivateKey | .ecPrivateKey => true
  | _ => false

end Kind

/-- A section that has been read. -/
structure Section where
  kind : Kind
  content : List UInt8
  deriving DecidableEq

def isLineEnd (b : UInt8) : Bool :=
  b == 10 || b == 13

/-- The lines of a text, each with the byte that ends it. -/
def lines : List UInt8 → List (List UInt8)
  | [] => []
  | b :: rest =>
    if isLineEnd b then [b] :: lines rest
    else match lines rest with
      | [] => [[b]]
      | line :: more => (b :: line) :: more

def beginMark : List UInt8 := Text.Utf8.encode "-----BEGIN "

/-- How the last line of a section begins. -/
def endMark : List UInt8 := Text.Utf8.encode "-----END "

def dashes : List UInt8 := Text.Utf8.encode "-----"

/-- The dashes and blanks that stand at the end of a line. -/
def closing (line : List UInt8) : List UInt8 :=
  (line.reverse.takeWhile fun b => b == 45 || b == 32 || isLineEnd b).reverse

/-- The label in a line that begins a section. It must end with exactly five dashes, between which
blanks may stand. -/
def labelOf? (line : List UInt8) : Option (List UInt8) :=
  let close := closing line
  if close.count 45 == 5 then
    let front := line.length - (close.dropWhile (· != 45)).length
    some ((line.take front).drop beginMark.length)
  else none

/-- A section of which only the front has been met: its label, and the text collected so far. -/
structure Started where
  label : List UInt8
  collected : List UInt8

/-- Reads lines in order; what comes out for each section is its content, or nothing if it cannot
be read. -/
def readLines : Option Started → List (List UInt8) → List (Option Section)
  | none, [] => []
  | some _, [] => [none]
  | started, line :: rest =>
    if beginMark.isPrefixOf line then
      match labelOf? line with
      | none => none :: readLines none rest
      | some label =>
        let collected := match started with
          | some s => s.collected
          | none => []
        readLines (some ⟨label, collected⟩) rest
    else
      match started with
      | none => readLines none rest
      | some s =>
        if (endMark ++ s.label ++ dashes).isPrefixOf line then
          match Kind.ofLabel? s.label with
          | none => readLines none rest
          | some kind =>
            (Base64.decode? s.collected).map (Section.mk kind) :: readLines none rest
        else readLines (some { s with collected := s.collected ++ line }) rest

def sections (text : List UInt8) : List (Option Section) :=
  readLines none (lines text)

end VaultPki.Pem
