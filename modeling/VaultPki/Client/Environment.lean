import VaultPki.Client.Config

/-!
# The environment of a process

A client can be set up from variables of its environment and from the files that they name.
-/

namespace VaultPki

/-- The variables and files that a process can see. -/
structure Environment where
  value? : String → Option String
  file? : String → Option (List UInt8)

namespace Environment

def read (env : Environment) (path : String) : Except FileProblem (List UInt8) :=
  match env.file? path with
  | some bytes => .ok bytes
  | none => .error .notFound

def isSwitchedOn (s : String) : Bool :=
  let s := Text.Ascii.lower s
  s == "1" || s == "true" || s == "yes"

def trustFile (env : Environment) (path : String) : Except FileProblem Config.Setting :=
  (env.read path).map fun bytes => .trust (.bundles [bytes])

/-- The settings that the variables make. A switch to trust anyone wins over a file, which must be
there nevertheless. -/
def settings (env : Environment) : Except Error (List Config.Setting) := do
  let some address := env.value? "VAULT_ADDR" | throw (.config "VAULT_ADDR is not set")
  let server ← Config.Setting.serverText address
  let inNamespace := (env.value? "VAULT_NAMESPACE").toList.map Config.Setting.serverNamespace
  let trusted ←
    match env.value? "VAULT_CACERT" with
    | none => pure []
    | some path =>
      match env.trustFile path with
      | .error p => throw (.file p)
      | .ok setting => pure [setting]
  let insecure :=
    if (env.value? "VAULT_SKIP_VERIFY").any isSwitchedOn then [Config.Setting.trust .anyone]
    else []
  return server :: inNamespace ++ trusted ++ insecure

def config (env : Environment) : Except Error Config := do
  Config.ofSettings (← env.settings)

def identity (env : Environment) (certificatePath keyPath : String) :
    Except FileProblem Identity := do
  let certificate ← env.read certificatePath
  let key ← env.read keyPath
  return ⟨certificate, key⟩

end Environment

end VaultPki
