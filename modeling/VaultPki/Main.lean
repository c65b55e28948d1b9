import VaultPki.CommandLine.Execution

/-!
# The command line tool

Reads the words, variables and files of the process and carries the command out. Making connections
is no part of this library: on the network that stands here nobody is reached.
-/

namespace VaultPki.CommandLine

def variableNames : List String :=
  ["VAULT_ADDR", "VAULT_TOKEN", "VAULT_NAMESPACE", "VAULT_CACERT"]

def fileContent? (path : String) : IO (Option (List UInt8)) := do
  try
    return some (← IO.FS.readBinFile path).toList
  catch _ =>
    return none

def runProcess (words : List String) : IO UInt32 := do
  let set ← variableNames.filterMapM fun name => do
    return (← IO.getEnv name).map fun value => (name, value)
  let env : Environment := ⟨fun name => set.lookup name, fun _ => none⟩
  let file? ←
    match (read env words).toOption.bind Invocation.authorityFile with
    | some path => fileContent? path
    | none => pure none
  let c := conclude { env with file? := fun _ => file? } Http.Network.down words
  IO.print c.output
  match c.complaint with
  | some complaint => IO.eprintln ("Error: " ++ complaint)
  | none => pure ()
  return c.code.toUInt32

end VaultPki.CommandLine

def main (words : List String) : IO UInt32 :=
  VaultPki.CommandLine.runProcess words
