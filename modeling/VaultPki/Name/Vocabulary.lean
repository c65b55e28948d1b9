import VaultPki.Error
import VaultPki.Text.Ascii

/-!
# Vocabularies

A vocabulary is a finite list of values, each with a name that the server knows. Names are
recognised whatever the case of their ASCII letters; any other text is an error that quotes it.
-/

namespace VaultPki

/-- A type whose values have names. -/
class Vocabulary (α : Type) where
  subject : String
  values : List α
  name : α → String

namespace Vocabulary

variable {α : Type} [Vocabulary α]

def ofName? (s : String) : Option α :=
  (values : List α).find? fun a => Text.Ascii.sameFolded s (name a)

def ofName (s : String) : Except Error α :=
  match ofName? s with
  | some a => .ok a
  | none => .error (.unknownName (subject α) s)

/-- The values of names, up to the first that is unknown. -/
def ofNames : List String → Except Error (List α)
  | [] => .ok []
  | s :: rest => do
    let a ← ofName s
    let as ← ofNames rest
    return a :: as

/-- The value of a name that may be absent. -/
def ofOptionalName : Option String → Except Error (Option α)
  | none => .ok none
  | some s => (ofName s).map some

/-- The values of names that may be absent. -/
def ofOptionalNames : Option (List String) → Except Error (Option (List α))
  | none => .ok none
  | some ss => (ofNames ss).map some

def names (as : List α) : List String :=
  as.map name

end Vocabulary

end VaultPki
