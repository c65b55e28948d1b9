import VaultPki.Envelope
import VaultPki.Report
import VaultPki.Text.Ascii
import VaultPki.Text.Blank
import VaultPki.Text.Utf8

/-!
# Reading answers

An answer with a status that is no success is an error with that status. Of others either the
status is all that counts, or their body is read as an envelope.
-/

namespace VaultPki

open Record

/-- The body of an answer that is no success. -/
structure Refusal where
  errors : List String

def Refusal.layout : Layout Refusal :=
  .plain [.defaulted "errors" (.list .text) []] (fun r => (r.errors, ()))
    (fun (errors, ()) => ⟨errors⟩) (fun _ => rfl) (fun _ => rfl)

/-- What a text says about errors: the messages in it, or itself if it is no such body. -/
def Refusal.ofText (text : String) : List String :=
  match layout.decode (Text.Utf8.encode text) with
  | .ok refusal => refusal.errors
  | .error _ => if Text.trim text == "" then [] else [Text.trim text]

namespace Answer

/-- The messages in an answer that is no success. Of a body that was cut short nothing is read. -/
def errors (r : Http.Response) : List String :=
  Refusal.ofText (if r.complete then Text.Utf8.text r.body else "")

def refuse {α : Type} (r : Http.Response) : Report α :=
  ⟨.error (.vault r.status (errors r)), [], [.refused r.status (errors r)]⟩

def isBlank (body : List UInt8) : Bool :=
  body.all Text.Ascii.isBlankByte

def envelope {α : Type} (c : Codec α) (body : List UInt8) : Except Error (Envelope α) :=
  if isBlank body then .ok .empty
  else ((Envelope.layout c).decode body).mapError .json

/-- Reads an answer as an envelope, when it is known how to read its body. -/
def readEnvelope {α : Type} (decode : List UInt8 → Except Error (Envelope α))
    (r : Http.Response) : Report (Envelope α) :=
  if !r.isSuccess then refuse r
  else if !r.complete then throw .http
  else Report.ofResult (decode r.body)

def required {α : Type} (e : Envelope α) : Report α :=
  match e.data with
  | some a => pure a
  | none => ⟨.error (.noData e.reason), [], [.noData e.reason]⟩

/-- Looks at the status only; another success than the expected one is noted. -/
def confirm (expected : Nat) (r : Http.Response) : Report Unit :=
  if !r.isSuccess then refuse r
  else if r.status = expected then pure ()
  else Report.note (.otherStatus expected r.status)

end Answer

end VaultPki
