import VaultPki.Proofs.Instruction.Body
import VaultPki.Proofs.Text.Commas

/-!
# Which alternative names are sent alike

Names, addresses and identifiers are sent as one text each, with commas between the elements of the
list. Where the text is cut at its commas again there are the pieces of all elements, so that two
lists are sent alike exactly if these are the same.
-/

namespace VaultPki

open Record
open Text.Commas (join split pieces)

/-- The sorts of alternative names that are sent as one text. -/
inductive JoinedNames where
  | names
  | addresses
  | uris
  deriving DecidableEq, Repr

namespace JoinedNames

/-- The name under which the text is sent. -/
def member : JoinedNames → String
  | names => "alt_names"
  | addresses => "ip_sans"
  | uris => "uri_sans"

def list? : JoinedNames → AlternativeNames → Option (List String)
  | names, n => n.names
  | addresses, n => n.addresses
  | uris, n => n.uris

theorem mem_entries (j : JoinedNames) (n : AlternativeNames) :
    (j.member, (j.list? n).map fun ss => .text (join ss)) ∈ n.entries := by
  cases j <;> simp [member, list?, AlternativeNames.entries]

theorem isMember_member (j : JoinedNames) : AlternativeNames.isMember j.member = true := by
  cases j <;> decide

end JoinedNames

/-- Optional lists are joined alike exactly if both are absent or cut into the same pieces. -/
theorem Text.Commas.map_join_eq_iff {o o' : Option (List String)} :
    (o.map fun ss => Json.text (join ss)) = (o'.map fun ss => Json.text (join ss)) ↔
      o.map pieces = o'.map pieces := by
  cases o with
  | none => cases o' <;> simp
  | some elements => cases o' <;> simp [join_eq_join_iff]

namespace Instruction

theorem filter_entries_of_none {k : Instruction} {o : k.Options}
    (h : k.alternativeNames? o = none) :
    (k.entries o).filter (fun e => AlternativeNames.isMember e.1) = [] := by
  cases k with
  | issue _ | sign _ | generateRoot | generateRequest | signIntermediate => cases h
  | _ => rfl

/-- What the body of a request holds under a name. -/
def sent? (k : Instruction) (o : k.Options) (mount name : String) : Option Json :=
  ((k.call o).operation mount).body.bind (Json.member? name)

/-- Elements of alternative names are sent as one text, if there is a list of them. -/
theorem sent?_member (k : Instruction) (o : k.Options) (mount : String) (j : JoinedNames) :
    k.sent? o mount j.member =
      ((k.alternativeNames? o).bind j.list?).map fun ss => .text (join ss) := by
  obtain ⟨ms, hwrite, hbody⟩ := k.exists_isBody o
  have hsent : k.sent? o mount j.member = ms.lookup j.member := by
    rw [sent?, (k.operation_call o mount).2, hwrite]
    rfl
  rw [hsent]
  cases hn : k.alternativeNames? o with
  | some n =>
    have hmem : (j.member, (j.list? n).map fun ss => .text (join ss)) ∈ k.entries o := by
      have hnames := j.mem_entries n
      rw [← filter_entries hn] at hnames
      exact (List.mem_filter.1 hnames).1
    exact hbody.lookup_eq _ hmem
  | none =>
    rw [hbody.eq_present, Option.bind_none, Option.map_none, List.lookup_eq_none_iff]
    intro m hm
    rw [bne_iff_ne]
    intro hname
    have hmem : (m.1, some m.2) ∈ (k.entries o).filter fun e => AlternativeNames.isMember e.1 :=
      List.mem_filter.2 ⟨mem_of_mem_present hm, hname ▸ j.isMember_member⟩
    rw [filter_entries_of_none hn] at hmem
    cases hmem

end Instruction

/-- A text is what its parts are joined to, and there is one more of them than there are commas in
it. A list that was joined is cut into all that its elements are cut into, and comes back exactly if
it has elements and none of them holds a comma. So lists of alternative names are sent alike, in
whatever calls, exactly if both are absent or their elements are cut into the same pieces. -/
theorem lists_are_cut_at_commas :
    (∀ s, join (split s) = s ∧ split s ≠ [] ∧ (split s).length = s.toList.count ',' + 1 ∧
      ∀ part ∈ split s, ',' ∉ part.toList) ∧
    Function.Injective split ∧
    (∀ first rest, split (join (first :: rest)) = (first :: rest).flatMap split) ∧
    split (join []) = [""] ∧
    (∀ elements, split (join elements) = elements ↔
      elements ≠ [] ∧ ∀ element ∈ elements, ',' ∉ element.toList) ∧
    ∀ (j : JoinedNames) (k k' : Instruction) (o : k.Options) (o' : k'.Options)
      (mount mount' : String),
      k.sent? o mount j.member = k'.sent? o' mount' j.member ↔
        ((k.alternativeNames? o).bind j.list?).map pieces =
          ((k'.alternativeNames? o').bind j.list?).map pieces := by
  refine ⟨fun s => ⟨Text.Commas.join_split s, ?_, Text.Commas.length_split s, ?_⟩,
    Text.Commas.split_injective, fun first rest => ?_, rfl, fun elements => ?_,
    fun j k k' o o' mount mount' => ?_⟩
  · exact mt List.map_eq_nil_iff.1 (Text.Commas.splitAt_ne_nil ',' s.toList)
  · exact fun part hpart => Text.Commas.comma_not_mem_of_mem_split hpart
  · exact Text.Commas.split_join (List.cons_ne_nil first rest)
  · exact Text.Commas.split_join_eq_self_iff
  · rw [Instruction.sent?_member, Instruction.sent?_member]
    exact Text.Commas.map_join_eq_iff

end VaultPki
