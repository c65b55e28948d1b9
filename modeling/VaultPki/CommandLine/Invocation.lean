import VaultPki.Client.Environment
import VaultPki.CommandLine.Command

/-!
# Invocations

A command line as a whole: switches for every command, which may stand in front of the name of the
command or behind it, and the command. What stands behind the name counts more. Some switches have a
variable that counts where the switch is not given.
-/

namespace VaultPki

/-- A command with what is needed to reach the server. -/
structure Invocation where
  address : Option String
  token : Option String
  mount : String
  serverNamespace : Option String
  authorityFile : Option String
  insecure : Bool
  quiet : Bool
  command : Command

namespace CommandLine

def lettered (name : String) (letter : Char) (arity : Arity) : Switch :=
  ⟨name, some letter, arity⟩

def isPath (s : String) : Bool :=
  s != ""

def commonSwitches : List Switch := [
  lettered "address" 'a' (.one anyValue),
  lettered "token" 't' (.one anyValue),
  lettered "mount" 'm' (.one anyValue),
  lettered "namespace" 'n' (.one anyValue),
  ⟨"ca-cert", none, .one isPath⟩,
  bare "insecure",
  lettered "verbose" 'v' .bare,
  lettered "quiet" 'q' .bare]

/-- Why a command line is not carried out, and the name of the command if it has one. -/
structure Halt where
  stop : Stop
  command : Option String

/-- Whether the variable for the file of certificates can be used where the switch is not given. -/
def variableFits (env : Environment) (f : Found) : Bool :=
  f.has "ca-cert" || (env.value? "VAULT_CACERT").all isPath

/-- The value of a switch in front of the command or behind it. -/
def common? (front behind : Found) (name : String) : Option String :=
  (behind.value? name).or (front.value? name)

def assemble (env : Environment) (front behind : Found) (command : Command) : Invocation where
  address := (common? front behind "address").or (env.value? "VAULT_ADDR")
  token := (common? front behind "token").or (env.value? "VAULT_TOKEN")
  mount := (common? front behind "mount").getD "pki"
  serverNamespace := (common? front behind "namespace").or (env.value? "VAULT_NAMESPACE")
  authorityFile := (common? front behind "ca-cert").or (env.value? "VAULT_CACERT")
  insecure := front.has "insecure" || behind.has "insecure"
  quiet := front.has "quiet" || behind.has "quiet"
  command

def readCommand (env : Environment) (front : Found) (form : Form) (words : List String) :
    Except Stop Invocation :=
  match scan (commonSwitches ++ form.switches) form.room false .none words with
  | .error stop => .error stop
  | .ok ⟨_, _ :: _⟩ => .error .usage
  | .ok ⟨behind, []⟩ =>
    match form.command? behind with
    | none => .error .usage
    | some command =>
      if variableFits env behind && variableFits env front then
        .ok (assemble env front behind command)
      else .error .usage

/-- Whether the words behind a request for help name a command, or nothing. -/
def namesCommand : List String → Bool
  | [] => true
  | [w] => w == "help" || forms.any fun form => form.name == w
  | _ => false

def read (env : Environment) (words : List String) : Except Halt Invocation :=
  match scan commonSwitches 0 false .none words with
  | .error stop => .error ⟨stop, none⟩
  | .ok ⟨_, []⟩ => .error ⟨.usage, none⟩
  | .ok ⟨front, name :: rest⟩ =>
    match forms.find? fun form => form.name == name with
    | some form => (readCommand env front form rest).mapError fun stop => ⟨stop, some name⟩
    | none =>
      if name == "help" && namesCommand rest then .error ⟨.help, none⟩
      else .error ⟨.usage, none⟩

end CommandLine

end VaultPki
