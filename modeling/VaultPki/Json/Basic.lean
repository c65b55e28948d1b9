/-!
# JSON values

A value as it is written. Objects keep their members in order, and a number with a fraction or an
exponent keeps the digits it was written with.
-/

namespace VaultPki

inductive Json where
  | null
  | bool (b : Bool)
  | integer (n : Int)
  | real (literal : String)
  | text (s : String)
  | list (items : List Json)
  | object (members : List (String × Json))
  deriving Inhabited

namespace Json

/-- The members of an object; other values have none. -/
def members : Json → List (String × Json)
  | .object ms => ms
  | _ => []

def member? (name : String) (j : Json) : Option Json :=
  j.members.lookup name

/-- Gives a name a value, in the place of the value it has if there is one. -/
def put (name : String) (value : Json) : List (String × Json) → List (String × Json)
  | [] => [(name, value)]
  | (n, v) :: rest => if n = name then (n, value) :: rest else (n, v) :: put name value rest

/-- The object in which of several members of one name the last counts. -/
def ofMembers (ms : List (String × Json)) : Json :=
  .object (ms.foldl (fun acc m => put m.1 m.2 acc) [])

def texts (ss : List String) : Json :=
  .list (ss.map .text)

/-- The value, or `null` for an absent one. -/
def orNull {α : Type} (f : α → Json) : Option α → Json
  | none => .null
  | some a => f a

end Json

end VaultPki
