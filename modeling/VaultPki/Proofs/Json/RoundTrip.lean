import VaultPki.Proofs.Json.Integers

/-!
# Reading JSON texts that were written

The bytes of a value are read as the document of that value, to the last one. Numbers are taken to
be integers of 64 bits, as others are kept as they were written.
-/

namespace VaultPki.Json

/-- Whether the numbers in a value are integers of 64 bits. -/
inductive HasIntegers : Json → Prop
  | null : HasIntegers .null
  | bool (b : Bool) : HasIntegers (.bool b)
  | integer {i : Int} (h : Reader.IsInRange i) : HasIntegers (.integer i)
  | text (s : String) : HasIntegers (.text s)
  | list {items : List Json} (h : ∀ j ∈ items, HasIntegers j) : HasIntegers (.list items)
  | object {ms : List (String × Json)} (h : ∀ m ∈ ms, HasIntegers m.2) : HasIntegers (.object ms)

namespace Reader

variable {fuel : Nat} {rest : List UInt8}

/-! ## Tokens -/

theorem skipBlanks_cons {b : UInt8} (h : isBlank b = false) (s : List UInt8) :
    skipBlanks (b :: s) = b :: s :=
  List.dropWhile_cons_of_neg (by simp [h])

theorem value_of_scalar {b : UInt8} {s : List UInt8} {d : Document} (hblank : isBlank b = false)
    (hlist : (b == 91) = false) (hobject : (b == 123) = false)
    (h : scalar b s = .ok (d, rest)) : value (fuel + 1) (b :: s) = (d, some rest) := by
  rw [value, skipBlanks_cons hblank]
  simp only [hlist, hobject, h, Bool.false_eq_true, if_false]

theorem separator_close {close : UInt8} (h : isBlank close = false) (s : List UInt8) :
    separator close (close :: s) = .ended s := by
  rw [separator, skipBlanks_cons h]
  simp only [beq_self_eq_true, if_true]

theorem separator_comma {close : UInt8} (h : (44 == close) = false) (s : List UInt8) :
    separator close (44 :: s) = .another s := by
  rw [separator, skipBlanks_cons rfl]
  simp only [h, Bool.false_eq_true, if_false, beq_self_eq_true, if_true]

/-! ## Values -/

/-- Whether a value is read back in front of anything that may end a number. -/
def ReadsBack (j : Json) : Prop :=
  ∀ fuel rest, 2 * (write j).length ≤ fuel → EndsNumber rest →
    value fuel (bytes (write j) ++ rest) = (.ofJson j, some rest)

theorem ReadsBack.of_succ {j : Json} (hwritten : 0 < (write j).length)
    (h : ∀ fuel rest, 2 * (write j).length ≤ fuel + 1 → EndsNumber rest →
      value (fuel + 1) (bytes (write j) ++ rest) = (.ofJson j, some rest)) : ReadsBack j := by
  intro fuel rest hfuel hrest
  cases fuel with
  -- Without fuel nothing is read, but at least one character was written.
  | zero => omega
  | succ fuel => exact h fuel rest hfuel hrest

theorem readsBack_null : ReadsBack .null := by
  refine .of_succ (by simp [write]) fun fuel rest _ _ => ?_
  exact value_of_scalar rfl rfl rfl rfl

theorem readsBack_bool (b : Bool) : ReadsBack (.bool b) := by
  cases b with
  | true =>
    refine .of_succ (by simp [write]) fun fuel rest _ _ => ?_
    exact value_of_scalar rfl rfl rfl rfl
  | false =>
    refine .of_succ (by simp [write]) fun fuel rest _ _ => ?_
    exact value_of_scalar rfl rfl rfl rfl

theorem readsBack_text (s : String) : ReadsBack (.text s) := by
  refine .of_succ (by simp [write, writeString]) fun fuel rest _ _ => ?_
  rw [write, bytes_writeString]
  apply value_of_scalar rfl rfl rfl
  show (string _).map (fun x => (Document.text x.1, x.2)) = _
  rw [string_written]
  rfl

/-- Whether a byte begins an integer. -/
def BeginsInteger (b : UInt8) : Prop :=
  b = 45 ∨ isDigit b = true

/-- An integer begins with nothing that another value begins with. -/
theorem BeginsInteger.ne {b k : UInt8} (h : BeginsInteger b) (hk : k ≠ 45)
    (hdigit : isDigit k = false) : b ≠ k := by
  rintro rfl
  rcases h with h | h
  · exact hk h
  · rw [hdigit] at h
    cases h

theorem BeginsInteger.not_blank {b : UInt8} (h : BeginsInteger b) : isBlank b = false := by
  have hspace : b ≠ 32 := h.ne (by decide) rfl
  have htab : b ≠ 9 := h.ne (by decide) rfl
  have hline : b ≠ 10 := h.ne (by decide) rfl
  have hreturn : b ≠ 13 := h.ne (by decide) rfl
  simp [isBlank, hspace, htab, hline, hreturn]

theorem exists_bytes_repr (i : Int) : ∃ b s, bytes i.repr.toList = b :: s ∧ BeginsInteger b := by
  rw [Int.repr_eq_if]
  by_cases hsign : 0 ≤ i
  · rw [if_pos hsign, Nat.toList_repr, ← digits]
    obtain ⟨d, ds, hdigits, -⟩ := exists_digits_eq_cons i.toNat
    exact ⟨d, ds, hdigits, .inr (isDigit_of_mem_digits _ d (hdigits ▸ List.mem_cons_self))⟩
  · rw [if_neg hsign, String.toList_append]
    exact ⟨45, _, rfl, .inl rfl⟩

theorem scalar_integer {b : UInt8} (h : BeginsInteger b) (s : List UInt8) :
    scalar b s = number (b :: s) := by
  have hnull : b ≠ 110 := h.ne (by decide) rfl
  have htrue : b ≠ 116 := h.ne (by decide) rfl
  have hfalse : b ≠ 102 := h.ne (by decide) rfl
  have hquote : b ≠ 34 := h.ne (by decide) rfl
  have hnumber : (b == 45 || isDigit b) = true := by
    rw [Bool.or_eq_true, beq_iff_eq]
    exact h
  rw [scalar, if_neg (by simpa using hnull), if_neg (by simpa using htrue),
    if_neg (by simpa using hfalse), if_neg (by simpa using hquote), if_pos hnumber]

theorem readsBack_integer {i : Int} (h : IsInRange i) : ReadsBack (.integer i) := by
  obtain ⟨b, s, hbytes, hb⟩ := exists_bytes_repr i
  have hwritten : 0 < (write (.integer i)).length := by
    rw [write, List.length_pos_iff]
    intro hnil
    rw [hnil] at hbytes
    cases hbytes
  refine .of_succ hwritten fun fuel rest _ hrest => ?_
  -- Only here does it matter what follows: a digit would go on the number.
  have hnumber := number_written h hrest
  rw [write, hbytes, List.cons_append]
  rw [hbytes, List.cons_append] at hnumber
  have hlist : b ≠ 91 := hb.ne (by decide) rfl
  have hobject : b ≠ 123 := hb.ne (by decide) rfl
  refine value_of_scalar hb.not_blank (by simpa using hlist) (by simpa using hobject) ?_
  rw [scalar_integer hb, hnumber]
  rfl

/-! ## Lists and objects -/

/-- A value does not begin with a blank or the end of a list. -/
theorem exists_bytes_write {j : Json} (h : HasIntegers j) :
    ∃ b s, bytes (write j) = b :: s ∧ isBlank b = false ∧ (b == 93) = false := by
  cases h with
  | null => exact ⟨_, _, rfl, rfl, rfl⟩
  | bool b => cases b <;> exact ⟨_, _, rfl, rfl, rfl⟩
  | integer h =>
    obtain ⟨b, s, hbytes, hb⟩ := exists_bytes_repr _
    have hend : b ≠ 93 := hb.ne (by decide) rfl
    exact ⟨b, s, hbytes, hb.not_blank, by simpa using hend⟩
  | text s => exact ⟨_, _, rfl, rfl, rfl⟩
  | list h => exact ⟨_, _, rfl, rfl, rfl⟩
  | object h => exact ⟨_, _, rfl, rfl, rfl⟩

private theorem bytes_append_cons (cs cs' : List Char) {c : Char} {b : UInt8}
    (hc : String.utf8EncodeChar c = [b]) (s : List UInt8) :
    bytes (cs ++ c :: cs') ++ s = bytes cs ++ b :: (bytes cs' ++ s) := by
  rw [bytes_append, bytes_cons, hc]
  simp

theorem bytes_comma (cs cs' : List Char) (s : List UInt8) :
    bytes (cs ++ ',' :: cs') ++ s = bytes cs ++ 44 :: (bytes cs' ++ s) :=
  bytes_append_cons cs cs' rfl s

theorem bytes_colon (cs cs' : List Char) (s : List UInt8) :
    bytes (cs ++ ':' :: cs') ++ s = bytes cs ++ 58 :: (bytes cs' ++ s) :=
  bytes_append_cons cs cs' rfl s

theorem bytes_write_list (its : List Json) (s : List UInt8) :
    bytes (write (.list its)) ++ s = 91 :: (bytes (writeItems its) ++ 93 :: s) :=
  congrArg (91 :: ·) (bytes_append_cons (writeItems its) [] rfl s)

theorem bytes_write_object (ms : List (String × Json)) (s : List UInt8) :
    bytes (write (.object ms)) ++ s = 123 :: (bytes (writeMembers ms) ++ 125 :: s) :=
  congrArg (123 :: ·) (bytes_append_cons (writeMembers ms) [] rfl s)

theorem items_last {j : Json} (hj : ReadsBack j) (hfuel : 2 * (write j).length ≤ fuel)
    (s : List UInt8) :
    items (fuel + 1) (bytes (write j) ++ 93 :: s) = ⟨[.ofJson j], none, some s⟩ := by
  have hvalue := hj fuel (93 :: s) hfuel (endsNumber_cons (by decide) s)
  have hclose := separator_close (show isBlank 93 = false from rfl) s
  simp only [items, hvalue, hclose]

theorem items_more {j : Json} (hj : ReadsBack j) (hfuel : 2 * (write j).length ≤ fuel)
    (s : List UInt8) :
    items (fuel + 1) (bytes (write j) ++ 44 :: s) = (items fuel s).cons (.ofJson j) := by
  have hvalue := hj fuel (44 :: s) hfuel (endsNumber_cons (by decide) s)
  have hcomma := separator_comma (show (44 == (93 : UInt8)) = false from rfl) s
  simp only [items, hvalue, hcomma]

/-- Items are read back, the last one in front of the closing bracket. -/
theorem items_written {its : List Json} (hne : its ≠ []) (h : ∀ j ∈ its, ReadsBack j)
    (hfuel : 2 * (writeItems its).length + 1 ≤ fuel) :
    items fuel (bytes (writeItems its) ++ 93 :: rest) =
      ⟨Document.ofItems its, none, some rest⟩ := by
  induction its generalizing fuel with
  | nil => exact absurd rfl hne
  | cons j its ih =>
    have hj := h j List.mem_cons_self
    cases fuel with
    | zero => omega
    | succ fuel =>
      cases its with
      | nil =>
        rw [writeItems] at hfuel ⊢
        rw [items_last hj (by omega)]
        rfl
      | cons k its =>
        have hwritten : writeItems (j :: k :: its) = write j ++ ',' :: writeItems (k :: its) := rfl
        have hlength := congrArg List.length hwritten
        rw [List.length_append, List.length_cons] at hlength
        have hothers := ih (List.cons_ne_nil k its) (fun x hx => h x (List.mem_cons_of_mem j hx))
          (show 2 * (writeItems (k :: its)).length + 1 ≤ fuel by omega)
        rw [hwritten, bytes_comma, items_more hj (by omega), hothers]
        rfl

theorem colon_cons (s : List UInt8) : colon (58 :: s) = .ok s := by
  rw [colon, skipBlanks_cons rfl]
  rfl

theorem members_last {name : String} {j : Json} (hj : ReadsBack j)
    (hfuel : 2 * (write j).length ≤ fuel) (s : List UInt8) :
    members (fuel + 1) (bytes (writeString name ++ ':' :: write j) ++ 125 :: s) =
      ⟨[(.ok name, .ofJson j)], none, some s⟩ := by
  have hvalue := hj fuel (125 :: s) hfuel (endsNumber_cons (by decide) s)
  have hclose := separator_close (show isBlank 125 = false from rfl) s
  rw [bytes_colon, bytes_writeString, members, skipBlanks_cons rfl]
  simp only [beq_self_eq_true, if_true, string_written, colon_cons, hvalue, hclose]

theorem members_more {name : String} {j : Json} (hj : ReadsBack j)
    (hfuel : 2 * (write j).length ≤ fuel) (s : List UInt8) :
    members (fuel + 1) (bytes (writeString name ++ ':' :: write j) ++ 44 :: s) =
      (members fuel s).cons (.ok name, .ofJson j) := by
  have hvalue := hj fuel (44 :: s) hfuel (endsNumber_cons (by decide) s)
  have hcomma := separator_comma (show (44 == (125 : UInt8)) = false from rfl) s
  rw [bytes_colon, bytes_writeString, members, skipBlanks_cons rfl]
  simp only [beq_self_eq_true, if_true, string_written, colon_cons, hvalue, hcomma]

/-- Members are read back, the last one in front of the closing brace. -/
theorem members_written {ms : List (String × Json)} (hne : ms ≠ [])
    (h : ∀ m ∈ ms, ReadsBack m.2) (hfuel : 2 * (writeMembers ms).length + 1 ≤ fuel) :
    members fuel (bytes (writeMembers ms) ++ 125 :: rest) =
      ⟨Document.ofMembers ms, none, some rest⟩ := by
  induction ms generalizing fuel with
  | nil => exact absurd rfl hne
  | cons m ms ih =>
    obtain ⟨name, j⟩ := m
    have hj : ReadsBack j := h (name, j) List.mem_cons_self
    cases fuel with
    | zero => omega
    | succ fuel =>
      cases ms with
      | nil =>
        have hwritten : writeMembers [(name, j)] = writeString name ++ ':' :: write j := rfl
        have hlength := congrArg List.length hwritten
        rw [List.length_append, List.length_cons] at hlength
        rw [hwritten, members_last hj (by omega)]
        rfl
      | cons m ms =>
        have hwritten : writeMembers ((name, j) :: m :: ms) =
            (writeString name ++ ':' :: write j) ++ ',' :: writeMembers (m :: ms) := rfl
        have hlength := congrArg List.length hwritten
        simp only [List.length_append, List.length_cons] at hlength
        have hothers := ih (List.cons_ne_nil m ms) (fun x hx => h x (List.mem_cons_of_mem _ hx))
          (show 2 * (writeMembers (m :: ms)).length + 1 ≤ fuel by omega)
        rw [hwritten, bytes_comma, members_more hj (by omega), hothers]
        rfl

theorem exists_bytes_writeItems {j : Json} (h : HasIntegers j) (its : List Json) :
    ∃ b s, bytes (writeItems (j :: its)) = b :: s ∧ isBlank b = false ∧ (b == 93) = false := by
  obtain ⟨b, s, hbytes, hblank, hend⟩ := exists_bytes_write h
  cases its with
  | nil => exact ⟨b, s, hbytes, hblank, hend⟩
  | cons k its =>
    refine ⟨b, s ++ bytes (',' :: writeItems (k :: its)), ?_, hblank, hend⟩
    show bytes (write j ++ ',' :: writeItems (k :: its)) = _
    rw [bytes_append, hbytes, List.cons_append]

theorem exists_bytes_writeMembers (m : String × Json) (ms : List (String × Json)) :
    ∃ s, bytes (writeMembers (m :: ms)) = 34 :: s := by
  cases ms with
  | nil => exact ⟨_, rfl⟩
  | cons m' ms => exact ⟨_, rfl⟩

theorem value_items {b : UInt8} (hblank : isBlank b = false) (hend : (b == 93) = false)
    (s : List UInt8) :
    value (fuel + 1) (91 :: b :: s) =
      (.list (items fuel (b :: s)).entries (items fuel (b :: s)).stop,
        (items fuel (b :: s)).rest) := by
  rw [value, skipBlanks_cons rfl]
  simp only [beq_self_eq_true, if_true, skipBlanks_cons hblank, hend, Bool.false_eq_true, if_false]

theorem value_members {b : UInt8} (hblank : isBlank b = false) (hend : (b == 125) = false)
    (s : List UInt8) :
    value (fuel + 1) (123 :: b :: s) =
      (.object (members fuel (b :: s)).entries (members fuel (b :: s)).stop,
        (members fuel (b :: s)).rest) := by
  have hlist : ((123 : UInt8) == 91) = false := rfl
  rw [value, skipBlanks_cons rfl]
  simp only [hlist, beq_self_eq_true, if_true, skipBlanks_cons hblank, hend, Bool.false_eq_true,
    if_false]

theorem readsBack_list {its : List Json} (hits : ∀ j ∈ its, HasIntegers j)
    (h : ∀ j ∈ its, ReadsBack j) : ReadsBack (.list its) := by
  refine .of_succ (by simp [write]) fun fuel rest hfuel _ => ?_
  simp only [write, List.length_append, List.length_cons, List.length_nil] at hfuel
  rw [bytes_write_list]
  cases its with
  | nil => rfl
  | cons j its =>
    have hrun : items fuel (bytes (writeItems (j :: its)) ++ 93 :: rest) =
        ⟨Document.ofItems (j :: its), none, some rest⟩ :=
      items_written (List.cons_ne_nil j its) h (by omega)
    obtain ⟨b, s, hbytes, hblank, hend⟩ := exists_bytes_writeItems (hits j List.mem_cons_self) its
    rw [hbytes, List.cons_append] at hrun ⊢
    rw [value_items hblank hend, hrun, Document.ofJson]

theorem readsBack_object {ms : List (String × Json)} (h : ∀ m ∈ ms, ReadsBack m.2) :
    ReadsBack (.object ms) := by
  refine .of_succ (by simp [write]) fun fuel rest hfuel _ => ?_
  simp only [write, List.length_append, List.length_cons, List.length_nil] at hfuel
  rw [bytes_write_object]
  cases ms with
  | nil => rfl
  | cons m ms =>
    have hrun : members fuel (bytes (writeMembers (m :: ms)) ++ 125 :: rest) =
        ⟨Document.ofMembers (m :: ms), none, some rest⟩ :=
      members_written (List.cons_ne_nil m ms) h (by omega)
    obtain ⟨s, hbytes⟩ := exists_bytes_writeMembers m ms
    rw [hbytes, List.cons_append] at hrun ⊢
    rw [value_members rfl rfl, hrun, Document.ofJson]

theorem readsBack_of_hasIntegers {j : Json} (h : HasIntegers j) : ReadsBack j := by
  -- What follows the value and the fuel are general in `ReadsBack`: inside a list a comma or the
  -- bracket follows, and the items are read with less fuel.
  induction h with
  | null => exact readsBack_null
  | bool b => exact readsBack_bool b
  | integer h => exact readsBack_integer h
  | text s => exact readsBack_text s
  | list hits ih => exact readsBack_list hits ih
  | object _ ih => exact readsBack_object ih

end Reader

/-- The bytes of a value are read as the document of that value, to the last one. -/
theorem Text.ofBytes_encode_compact {j : Json} (h : HasIntegers j) :
    Text.ofBytes (VaultPki.Text.Utf8.encode j.compact) = ⟨.ofJson j, true⟩ := by
  have hbytes : VaultPki.Text.Utf8.encode j.compact = bytes (write j) := by
    rw [VaultPki.Text.Utf8.encode, compact, String.toList_ofList, bytes]
  have hlength : (write j).length ≤ (bytes (write j)).length := length_le_length_bytes _
  have hvalue := Reader.readsBack_of_hasIntegers h (2 * (bytes (write j)).length + 2) []
    (by omega) Reader.endsNumber_nil
  rw [List.append_nil] at hvalue
  rw [hbytes, Text.ofBytes, hvalue]
  rfl

end VaultPki.Json
