import VaultPki.Client.Answer
import VaultPki.Client.Basic

/-!
# Operations

An operation is one request to the server and the way in which its answer is read: either the status
confirms that something was done, or the data of the envelope is the result.
-/

namespace VaultPki

open Record

/-- How an answer is read. Of an operation with data the server may say that there is nothing under
the path, which can stand for a value. -/
inductive Exit (α : Type) where
  | confirmation (expected : Nat) (value : α)
  | payload (decode : List UInt8 → Except Error (Envelope (Except Error α)))
      (absent : Option (α × Event))

namespace Exit

variable {α β : Type}

/-- The body of an answer with data that a codec reads and `f` interprets. -/
def interpreted (c : Codec β) (f : β → Except Error α) (body : List UInt8) :
    Except Error (Envelope (Except Error α)) :=
  (Answer.envelope c body).map (Envelope.map f)

/-- The exit for data that a codec reads and `f` interprets. -/
def data (c : Codec β) (f : β → Except Error α) : Exit α :=
  .payload (interpreted c f) none

/-- The exit for such data where nothing under the path stands for a value. -/
def dataOr (c : Codec β) (f : β → Except Error α) (value : α) (event : Event) : Exit α :=
  .payload (interpreted c f) (some (value, event))

def readData (decode : List UInt8 → Except Error (Envelope (Except Error α)))
    (r : Http.Response) : Report α := do
  let envelope ← Answer.readEnvelope decode r
  let result ← Answer.required envelope
  Report.ofResult result

def read (r : Http.Response) : Exit α → Report α
  | .confirmation expected value => do
    Answer.confirm expected r
    return value
  | .payload decode none => readData decode r
  | .payload decode (some (value, event)) =>
    if r.status = 404 then ⟨.ok value, [], [.refused r.status (Answer.errors r), event]⟩
    else readData decode r

end Exit

/-- One request and what its answer means. -/
structure Operation (α : Type) where
  verb : Verb
  path : String
  body : Option Json
  exit : Exit α
  deed : α → Option Event

namespace Operation

variable {α : Type}

def perform (op : Operation α) (c : Client) (net : Http.Network) (token : String) : Report α := do
  let response ← c.send net token op.verb op.path op.body
  let value ← op.exit.read response
  match op.deed value with
  | some event => Report.note event
  | none => pure ()
  return value

end Operation

end VaultPki
