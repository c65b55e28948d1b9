import VaultPki.Json.Document
import VaultPki.Text.Commas
import VaultPki.Url.Host

/-!
# Errors

Why an operation on a PKI mount can fail. Three families reach callers who did nothing wrong: the
server answered with a status that is no success, it answered without data, or it sent a value that
the model has no place for. The others come from the client's own configuration or from the
exchange itself.
-/

namespace VaultPki

inductive FileProblem where
  | notFound
  deriving DecidableEq, Repr

def FileProblem.message : FileProblem → String
  | .notFound => "No such file or directory (os error 2)"

inductive Error where
  | tls (detail : String)
  | http
  | vault (status : Nat) (errors : List String)
  | noData (message : String)
  | encoding (detail : String)
  | json (problem : Json.Problem)
  | url (problem : Url.Problem)
  | config (detail : String)
  | token (detail : String)
  | file (problem : FileProblem)
  deriving DecidableEq, Repr

namespace Error

/-- Texts with a semicolon and a space between neighbours. -/
def listed (errors : List String) : String :=
  String.ofList (Text.Commas.joinWith [';', ' '] (errors.map String.toList))

/-- The wording of an error. Where the exchange or the text of a body failed, what went wrong in
detail is left to whoever carried it out. -/
def message : Error → String
  | .tls detail => "TLS error: " ++ detail
  | .http => "HTTP error"
  | .vault status errors => "Vault error " ++ status.repr ++ ": " ++ listed errors
  | .noData message => message
  | .encoding detail => "Invalid wire value: " ++ detail
  | .json _ => "JSON error"
  | .url problem => "URL error: " ++ problem.message
  | .config detail => "Configuration error: " ++ detail
  | .token detail => "Token error: " ++ detail
  | .file problem => "I/O error: " ++ problem.message

def status? : Error → Option Nat
  | .vault status _ => some status
  | _ => none

def isNotFound (e : Error) : Bool :=
  e.status? == some 404

/-- What is said when the server answered without data and gave no reason. -/
def unknownReason : String := "Unknown remote error"

def unknownName (vocabulary name : String) : Error :=
  .encoding ("unknown " ++ vocabulary ++ " '" ++ name ++ "'")

def timeOutOfRange (seconds : Int) : Error :=
  .encoding ("revocation time " ++ seconds.repr ++
    " out of range: timestamp was not in range")

/-- PEM text without a certificate where one is needed. -/
def noCertificates : Error :=
  .tls "No certificates found in PEM data"

/-- A certificate and key that cannot serve as an identity. -/
def invalidIdentity : Error :=
  .tls "Failed to create client identity: builder error"

def invalidToken : Error :=
  .token "token contains invalid header characters"

def invalidNamespace : Error :=
  .config "namespace contains invalid header characters"

def emptyToken : Error :=
  .token "empty token"

end Error

end VaultPki
