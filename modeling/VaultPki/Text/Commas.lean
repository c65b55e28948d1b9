/-!
# Comma-separated texts

A list of texts is written as one text with a comma between neighbours. Splitting cuts at every
comma, so it never yields the empty list: the empty text splits into one empty element.
-/

namespace VaultPki.Text.Commas

/-- Cuts a sequence of characters at every `sep`. -/
def splitAt (sep : Char) : List Char → List (List Char)
  | [] => [[]]
  | c :: cs =>
    if c = sep then [] :: splitAt sep cs
    else match splitAt sep cs with
      | [] => [[c]]
      | head :: tail => (c :: head) :: tail

/-- Writes sequences one after the other with `sep` between neighbours. -/
def joinWith (sep : List Char) : List (List Char) → List Char
  | [] => []
  | [cs] => cs
  | cs :: rest => cs ++ sep ++ joinWith sep rest

/-- The elements in one text, with a comma between neighbours. -/
def join (elements : List String) : String :=
  String.ofList (joinWith [','] (elements.map String.toList))

def split (s : String) : List String :=
  (splitAt ',' s.toList).map String.ofList

end VaultPki.Text.Commas
