import VaultPki.Error
import VaultPki.Text.Quoted

/-!
# Events

What a client reports about its work while it works. Every event has a level and a wording; none
holds a token, a key or the body of a request.
-/

namespace VaultPki

/-- How important an event is. -/
inductive Level where
  | debug
  | info
  | warn
  deriving DecidableEq, Repr

def Level.text : Level → String
  | .debug => "DEBUG"
  | .info => "INFO"
  | .warn => "WARN"

/-- What is done with a path. Listing is a way of reading. -/
inductive Verb where
  | read
  | list
  | write
  | delete
  deriving DecidableEq, Repr

def Verb.text : Verb → String
  | .read => "GET"
  | .list => "LIST"
  | .write => "POST"
  | .delete => "DELETE"

/-- A change that is worth a note. -/
inductive Deed where
  | installedBundle
  | generatedRoot (serial : String)
  | deletedRoot
  | installedIntermediate
  | enabled
  | disabled
  deriving DecidableEq, Repr

def Deed.message (mount : String) : Deed → String
  | .installedBundle => "Installed CA bundle in " ++ mount
  | .generatedRoot serial => "Generated root CA " ++ serial ++ " in " ++ mount
  | .deletedRoot => "Deleted root CA in " ++ mount
  | .installedIntermediate => "Installed signed intermediate CA in " ++ mount
  | .enabled => "Enabled PKI engine at " ++ mount
  | .disabled => "Disabled PKI engine at " ++ mount

/-- Something that a client reports. -/
inductive Event where
  | ignoredHeader (name : String)
  | started (verb : Verb) (path : String)
  | refused (status : Nat) (errors : List String)
  | otherStatus (expected status : Nat)
  | noRoles (mount : String)
  | noData (message : String)
  | probeFailed (mount : String) (error : Error)
  | done (deed : Deed) (mount : String)
  deriving DecidableEq

namespace Event

def level : Event → Level
  | .ignoredHeader _ | .noData _ => .warn
  | .done _ _ => .info
  | _ => .debug

def message : Event → String
  | .ignoredHeader name => "Ignoring invalid additional header '" ++ name ++ "'"
  | .started verb path => verb.text ++ " " ++ path
  | .refused status errors =>
    "Vault returned " ++ status.repr ++ ": " ++ Text.shownList Text.quoted errors
  | .otherStatus expected status =>
    "Expected status " ++ expected.repr ++ ", got " ++ status.repr
  | .noRoles mount => "No roles under " ++ mount
  | .noData message => "Vault response carried no data: " ++ message
  | .probeFailed mount error => "PKI probe of " ++ mount ++ " failed: " ++ error.message
  | .done deed mount => deed.message mount

def line (e : Event) : String :=
  e.level.text ++ " " ++ e.message

end Event

end VaultPki
