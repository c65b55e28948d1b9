import VaultPki.Envelope
import VaultPki.Proofs.Record.Masking

/-!
# Records whose secrets are masked

Keys, requests for certificates and certificates stand under names of their own in the data of an
answer. A document is masked by blanking the texts under these names. What is read from a document
and from the masked one differs in nothing else: one is refused exactly if the other is, for the
same reason, and all other values are the same.
-/

namespace VaultPki

open Json (Document Problem Defect Break)

/-- The names of secrets in the data of an answer. -/
def secretNames : List String :=
  ["private_key", "certificate", "issuing_ca", "csr", "ca_chain"]

def isSecret (name : String) : Bool :=
  secretNames.contains name

namespace Json.Document

mutual

/-- A document in which the texts under the names of secrets are blank, wherever they stand. The
document itself may stand under such a name. -/
def masked (secret : Bool) : Document → Document
  | .text (.ok s) => .text (.ok (if secret then "" else s))
  | .list items stop => .list (maskedItems secret items) stop
  | .object ms stop => .object (maskedMembers ms) stop
  | d => d

def maskedItems (secret : Bool) : List Document → List Document
  | [] => []
  | d :: rest => masked secret d :: maskedItems secret rest

def maskedMembers :
    List (Except Defect String × Document) → List (Except Defect String × Document)
  | [] => []
  | (.ok name, d) :: rest => (.ok name, masked (isSecret name) d) :: maskedMembers rest
  | (.error defect, d) :: rest => (.error defect, masked false d) :: maskedMembers rest

end

mutual

theorem skim_masked (secret : Bool) (d : Document) : (d.masked secret).skim = d.skim := by
  cases d with
  | text content => cases content <;> rfl
  | list items stop => exact skimItems_maskedItems secret items stop
  | object ms stop => exact skimMembers_maskedMembers ms stop
  | _ => rfl

theorem skimItems_maskedItems (secret : Bool) (items : List Document) (stop : Option Break) :
    skimItems (maskedItems secret items) stop = skimItems items stop := by
  cases items with
  | nil => rfl
  | cons d rest =>
    rw [maskedItems, skimItems, skimItems, skim_masked secret d,
      skimItems_maskedItems secret rest stop]

theorem skimMembers_maskedMembers (ms : List (Except Defect String × Document))
    (stop : Option Break) : skimMembers (maskedMembers ms) stop = skimMembers ms stop := by
  match ms with
  | [] => rfl
  | (.ok name, d) :: rest =>
    rw [maskedMembers, skimMembers, skimMembers, skim_masked (isSecret name) d,
      skimMembers_maskedMembers rest stop]
  | (.error defect, d) :: rest =>
    rw [maskedMembers, skimMembers, skimMembers, skim_masked false d,
      skimMembers_maskedMembers rest stop]

end

theorem masked_eq_null_iff {secret : Bool} {d : Document} :
    d.masked secret = .null ↔ d = .null := by
  cases d with
  | text content => cases content <;> simp [masked]
  | _ => simp [masked]

/-- The document of a record in which secrets are masked. Of a list the items are taken to stand
under the names of the fields. -/
def maskedRecord (names : List String) : Document → Document :=
  Record.mapRecord (fun name => masked (isSecret name)) names

/-- The document of an envelope whose data are changed. -/
def onData (change : Document → Document) : Document → Document :=
  Record.mapRecord (fun name d => if name = "data" then change d else d)
    ["data", "warnings", "errors"]

/-- The document of an envelope in which the secrets in the data are masked. -/
def maskedEnvelope (names : List String) : Document → Document :=
  Record.mapRecord (fun name d => if name = "data" then d.maskedRecord names else d)
    ["data", "warnings", "errors"]

theorem skim_maskedRecord (names : List String) (d : Document) :
    (d.maskedRecord names).skim = d.skim :=
  Record.skim_mapRecord (fun name => skim_masked (isSecret name)) names d

mutual

/-- A masked document can be read in full exactly if the document can. -/
theorem value_masked (levels : Nat) (secret : Bool) (d : Document) :
    Attempt.Alike (fun _ _ => True) (d.value levels) ((d.masked secret).value levels) := by
  cases d with
  | text content =>
    cases content with
    | error defect => exact .error defect
    | ok s => exact .ok trivial
  | list items stop =>
    cases levels with
    | zero => exact .error _
    | succ levels => exact (valueItems_masked levels secret items stop).map fun _ _ _ => trivial
  | object ms stop =>
    cases levels with
    | zero => exact .error _
    | succ levels => exact (valueMembers_masked levels ms stop).map fun _ _ _ => trivial
  | _ => exact .refl (fun _ => trivial) _

theorem valueItems_masked (levels : Nat) (secret : Bool) (items : List Document)
    (stop : Option Break) : Attempt.Alike (fun _ _ => True) (valueItems levels items stop)
      (valueItems levels (maskedItems secret items) stop) := by
  cases items with
  | nil => exact .refl (fun _ => trivial) _
  | cons d rest =>
    have hd := value_masked levels secret d
    rw [maskedItems, valueItems, valueItems]
    generalize d.value levels = x at hd ⊢
    generalize (d.masked secret).value levels = y at hd ⊢
    cases hd with
    | error defect => exact .error defect
    | ok => exact (valueItems_masked levels secret rest stop).map fun _ _ _ => trivial

theorem valueMembers_masked (levels : Nat) (ms : List (Except Defect String × Document))
    (stop : Option Break) : Attempt.Alike (fun _ _ => True) (valueMembers levels ms stop)
      (valueMembers levels (maskedMembers ms) stop) := by
  match ms with
  | [] => exact .refl (fun _ => trivial) _
  | (.error defect, d) :: rest => exact .error defect
  | (.ok name, d) :: rest =>
    have hd := value_masked levels (isSecret name) d
    rw [maskedMembers, valueMembers, valueMembers]
    generalize d.value levels = x at hd ⊢
    generalize (d.masked (isSecret name)).value levels = y at hd ⊢
    cases hd with
    | error defect => exact .error defect
    | ok => exact (valueMembers_masked levels rest stop).map fun _ _ _ => trivial

end

end Json.Document

namespace Record

open Attempt (Alike)

variable {α : Type}

/-! ## Codecs -/

/-- Whether a codec reads the same from a masked document, but for a value that is a secret. -/
def Codec.IsDiscreet (c : Codec α) : Prop :=
  ∀ secret, c.Overlooks (Document.masked secret) fun a a' => secret = true ∨ a = a'

namespace Codec

variable {c : Codec α}

@[simp] theorem text_isDiscreet : text.IsDiscreet := by
  intro secret levels d
  cases d with
  | text content =>
    cases content with
    | error defect => exact .error _
    | ok s =>
      cases secret with
      | true => exact .ok (.inl rfl)
      | false => exact .ok (.inr rfl)
  | _ => exact .error _

@[simp] theorem list_isDiscreet (h : c.IsDiscreet) : c.list.IsDiscreet := by
  intro secret levels d
  have hitems (levels : Nat) (items : List Document) (stop : Option Break) :
      Alike (fun as as' => secret = true ∨ as = as') (readItems c levels items stop)
        (readItems c levels (Document.maskedItems secret items) stop) := by
    induction items with
    | nil =>
      cases stop with
      | none => exact .ok (.inr rfl)
      | some b => exact .error _
    | cons d items ih =>
      have hread := h secret levels d
      rw [Document.maskedItems, readItems, readItems]
      generalize c.read levels d = x at hread ⊢
      generalize c.read levels (d.masked secret) = y at hread ⊢
      cases hread with
      | error p => exact .error p
      | ok ha =>
        refine ih.map fun as as' has => ?_
        rcases ha with hsecret | rfl
        · exact .inl hsecret
        · exact has.imp_right fun h => by rw [h]
  cases d with
  | text content => cases content <;> exact .error _
  | list items stop =>
    cases levels with
    | zero => exact .error _
    | succ levels => exact hitems levels items stop
  | _ => exact .error _

theorem nullable_isDiscreet (h : c.IsDiscreet) : c.nullable.IsDiscreet := by
  intro secret
  have hnullable := nullable_overlooks (fun _ => Document.masked_eq_null_iff) (h secret)
  intro levels d
  refine (hnullable levels d).mono fun a a' ha => ?_
  cases ha with
  | none => exact .inr rfl
  | some ha => exact ha.imp_right fun h => by rw [h]

@[simp] theorem flag_isDiscreet : flag.IsDiscreet := by
  intro secret levels d
  cases d with
  | text content => cases content <;> exact .error _
  | bool b => exact .ok (.inr rfl)
  | _ => exact .error _

@[simp] theorem integer_isDiscreet (narrow : Int → Option α) (widen : α → Int) :
    (integer narrow widen).IsDiscreet := by
  intro secret levels d
  cases d with
  | text content => cases content <;> exact .error _
  | integer n => exact .refl (fun _ => .inr rfl) _
  | _ => exact .error _

theorem duration_isDiscreet : duration.IsDiscreet := by
  intro secret levels d
  cases d with
  | text content =>
    cases content with
    | error defect => exact .error _
    | ok s =>
      cases secret with
      | true => exact .ok (.inl rfl)
      | false => exact .ok (.inr rfl)
  -- Lists and objects are refused once they have been read in full.
  | list items stop =>
    cases levels with
    | zero => exact .error _
    | succ levels =>
      have hitems := Document.valueItems_masked levels secret items stop
      simp only [duration, Document.masked, Document.value]
      generalize Document.valueItems levels items stop = x at hitems ⊢
      generalize Document.valueItems levels (Document.maskedItems secret items) stop = y at hitems ⊢
      cases hitems <;> exact .error _
  | object ms stop =>
    cases levels with
    | zero => exact .error _
    | succ levels =>
      have hmembers := Document.valueMembers_masked levels ms stop
      simp only [duration, Document.masked, Document.value]
      generalize Document.valueMembers levels ms stop = x at hmembers ⊢
      generalize Document.valueMembers levels (Document.maskedMembers ms) stop = y at hmembers ⊢
      cases hmembers <;> exact .error _
  | _ => exact .refl (fun _ => .inr rfl) _

/-- What is read from two documents which a change makes one is related through it. -/
theorem decode_alike {change : Document → Document} {R : α → α → Prop}
    (h : c.OverlooksAt 127 change R) {bytes bytes' : List UInt8}
    (hcomplete : (Json.Text.ofBytes bytes).complete = (Json.Text.ofBytes bytes').complete)
    (hdocument : change (Json.Text.ofBytes bytes).document =
      change (Json.Text.ofBytes bytes').document) :
    Alike (fun a a' => ∃ b, R a b ∧ R a' b) (c.decode bytes) (c.decode bytes') := by
  have hread := h (Json.Text.ofBytes bytes).document
  have hread' := h (Json.Text.ofBytes bytes').document
  rw [← hdocument] at hread'
  rw [decode, decode]
  simp only [hcomplete]
  generalize c.read 127 (Json.Text.ofBytes bytes).document = x at hread ⊢
  generalize c.read 127 (Json.Text.ofBytes bytes').document = x' at hread' ⊢
  generalize c.read 127 (change (Json.Text.ofBytes bytes).document) = y at hread hread'
  cases hread with
  | error p =>
    cases hread'
    exact .error p
  | ok ha =>
    cases hread' with
    | ok ha' =>
      cases (Json.Text.ofBytes bytes').complete with
      | true => exact .ok ⟨_, ha, ha'⟩
      | false => exact .error _

end Codec

/-! ## Records -/

/-- Whether the codec of a field reads the same from a masked document. -/
def Field.IsDiscreet (f : Field) : Prop :=
  f.codec.IsDiscreet

namespace Field

variable {c : Codec α}

@[simp] theorem required_isDiscreet {name : String} :
    (required name c).IsDiscreet ↔ c.IsDiscreet :=
  Iff.rfl

@[simp] theorem defaulted_isDiscreet {name : String} {value : α} :
    (defaulted name c value).IsDiscreet ↔ c.IsDiscreet :=
  Iff.rfl

@[simp] theorem optionalLast_isDiscreet {name : String} (h : c.IsDiscreet) :
    (optionalLast name c).IsDiscreet :=
  Codec.nullable_isDiscreet h

@[simp] theorem nullable_isDiscreet {name : String} (h : c.IsDiscreet) :
    (nullable name c).IsDiscreet :=
  Codec.nullable_isDiscreet h

@[simp] theorem duration_isDiscreet {name : String} : (duration name).IsDiscreet :=
  Codec.duration_isDiscreet

end Field

/-- Whether values are the same unless they are secrets, for each field. -/
def Row.openly : (fs : List Field) → Row.Relation fs
  | [] => ()
  | f :: fs => (fun v v' => isSecret f.name = true ∨ v = v', openly fs)

theorem Row.related_openly_refl {fs : List Field} (row : Row fs) :
    Row.Related fs (Row.openly fs) row row := by
  induction fs with
  | nil => trivial
  | cons f fs ih =>
    obtain ⟨v, rest⟩ := row
    exact ⟨.inr rfl, ih rest⟩

theorem Row.overlooks_openly {fs : List Field} (h : ∀ f ∈ fs, f.IsDiscreet) :
    Row.Overlooks (fun name => Document.masked (isSecret name)) fs (Row.openly fs) := by
  induction fs with
  | nil => trivial
  | cons f fs ih =>
    exact ⟨fun _ => .inr rfl, h f List.mem_cons_self (isSecret f.name),
      ih fun g hg => h g (List.mem_cons_of_mem f hg)⟩

namespace Layout

variable {ρ : Type} {l : Layout ρ}

theorem IsFlat.overlooks_maskedRecord (hflat : l.IsFlat)
    (hown : ∀ f ∈ l.own, f.IsDiscreet) :
    l.codec.Overlooks (Document.maskedRecord l.names)
      fun r r' => Row.Related l.own (Row.openly l.own) (l.row r).1 (l.row r').1 :=
  overlooks hflat.spread_eq_nil (fun name => Document.skim_masked (isSecret name))
    (Row.overlooks_openly hown)

end Layout

end Record

namespace Envelope

open Record

variable {α : Type} {c : Codec α} {levels : Nat} {R : α → α → Prop}

/-- Whether envelopes are the same but for their data, which are related. -/
structure Alike (R : α → α → Prop) (e e' : Envelope α) : Prop where
  data : Option.Rel R e.data e'.data
  warnings : e.warnings = e'.warnings
  errors : e.errors = e'.errors

theorem overlooksAt_onData {change : Document → Document}
    (hnull : ∀ d, change d = .null ↔ d = .null) (hskim : ∀ d, (change d).skim = d.skim)
    (h : c.OverlooksAt levels change R) (hR : ∀ a, R a a) :
    (layout c).codec.OverlooksAt (levels + 1) (Document.onData change) (Alike R) := by
  have hskim (name : String) (d : Document) :
      (if name = "data" then change d else d).skim = d.skim := by
    split
    · exact hskim d
    · rfl
  have hrefl (o : Option α) : Option.Rel R o o := by
    cases o with
    | none => exact .none
    | some a => exact .some (hR a)
  have hrow : Row.OverlooksAt levels (fun name d => if name = "data" then change d else d)
      (layout c).own (Option.Rel R, (· = ·), (· = ·), ()) :=
    ⟨hrefl, Codec.nullable_overlooksAt hnull h, fun _ => rfl,
      Codec.overlooks_id (fun _ => rfl) levels, fun _ => rfl,
      Codec.overlooks_id (fun _ => rfl) levels, trivial⟩
  intro d
  refine (Layout.overlooksAt rfl hskim hrow d).mono fun e e' hrelated => ?_
  obtain ⟨hdata, hwarnings, herrors, -⟩ := hrelated
  exact ⟨hdata, hwarnings, herrors⟩

end Envelope

end VaultPki
