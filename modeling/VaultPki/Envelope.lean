import VaultPki.Error
import VaultPki.Record.Layout

/-!
# Envelopes

The server wraps what it answers in an envelope, beside warnings and messages. An answer without
data is an error, for which the first warning gives the reason.
-/

namespace VaultPki

open Record

/-- An answer of the server. -/
structure Envelope (α : Type) where
  data : Option α
  warnings : Option (List String)
  errors : Option (List String)

namespace Envelope

variable {α : Type}

def empty : Envelope α :=
  ⟨none, none, none⟩

def ofData (a : α) : Envelope α :=
  ⟨some a, none, none⟩

def map {β : Type} (f : α → β) (e : Envelope α) : Envelope β :=
  ⟨e.data.map f, e.warnings, e.errors⟩

/-- The members of an envelope around values of a codec. -/
def fields (c : Codec α) : List Field := [
  .nullableFirst "data" c,
  .nullable "warnings" (.list .text),
  .nullable "errors" (.list .text)]

def layout (c : Codec α) : Layout (Envelope α) :=
  .plain (fields c) (fun e => (e.data, e.warnings, e.errors, ()))
    (fun (data, warnings, errors, ()) => ⟨data, warnings, errors⟩) (fun _ => rfl) (fun _ => rfl)

/-- Why there is no data: the first warning, if there is one. -/
def reason (e : Envelope α) : String :=
  match e.warnings with
  | some (w :: _) => w
  | _ => Error.unknownReason

def required (e : Envelope α) : Except Error α :=
  match e.data with
  | some a => .ok a
  | none => .error (.noData e.reason)

end Envelope

end VaultPki
