import VaultPki.Proofs.CommandLine.Switch

/-!
# Lists of words

A list of words gives switches with their values, in order, and leaves the words that are none. A
value that is a word of its own must not look like a switch, and behind `--` no word is one. The
reader finds what a list gives; without room for words it stops at the first of them.
-/

namespace VaultPki.CommandLine

variable {switches : List Switch} {f : Found} {s : Switch} {given : Given} {room : Nat}
  {w value : String} {rest words : List String}

/-- Words in front of which there is no `--`: those that give switches, each perhaps with the next
word for its value, and the other words, neither of which look like a switch. -/
inductive Reads (switches : List Switch) : List String → Given → List String → Prop
  | nil : Reads switches [] [] []
  | word {w : String} {rest : List String} {given : Given} {words : List String}
      (hw : looksLikeSwitch w.toList = false) (h : Reads switches rest given words) :
    Reads switches (w :: rest) given (w :: words)
  | spelled {w : String} {rest : List String} {own given : Given} {words : List String}
      (hw : Spells switches w.toList own none) (h : Reads switches rest given words) :
    Reads switches (w :: rest) (own ++ given) words
  | valued {w value : String} {s : Switch} {rest : List String} {own given : Given}
      {words : List String} (hw : Spells switches w.toList own (some s))
      (hvalue : looksLikeSwitch value.toList = false) (h : Reads switches rest given words) :
    Reads switches (w :: value :: rest) (own ++ (s, value) :: given) words

/-- Words that are sorted into switches and others. Behind `--` all are others. -/
inductive Sorts (switches : List Switch) : List String → Given → List String → Prop
  | all {text : List String} {given : Given} {words : List String}
      (h : Reads switches text given words) : Sorts switches text given words
  | behind {text : List String} {given : Given} {words : List String}
      (h : Reads switches text given words) (rest : List String) :
    Sorts switches (text ++ "--" :: rest) given (words ++ rest)

theorem Reads.mem {text : List String} (h : Reads switches text given words) :
    ∀ g ∈ given, g.1 ∈ switches := by
  induction h with
  | nil => exact nofun
  | word _ _ ih => exact ih
  | spelled hw _ ih => exact List.forall_mem_append.2 ⟨hw.mem.1, ih⟩
  | valued hw _ _ ih =>
    exact List.forall_mem_append.2 ⟨hw.mem.1, List.forall_mem_cons.2 ⟨hw.mem.2 _ rfl, ih⟩⟩

theorem Sorts.mem {text : List String} (h : Sorts switches text given words) :
    ∀ g ∈ given, g.1 ∈ switches := by
  cases h with
  | all h => exact h.mem
  | behind h => exact h.mem

theorem ne_dashes_of_plain {w : String} (h : looksLikeSwitch w.toList = false) : w ≠ "--" := by
  rintro rfl
  cases h

/-! ### Single steps -/

theorem scan_plain (hw : looksLikeSwitch w.toList = false) (hroom : f.words.length < room) :
    scan switches room false f (w :: rest) =
      scan switches room false (f.adding [] [w]) rest := by
  rw [scan, if_neg (by simp [ne_dashes_of_plain hw]), if_neg (by simp [hw]), if_pos hroom,
    Found.word_eq_adding]

theorem scan_spelled (hv : IsVocabulary switches) (hw : Spells switches w.toList given none)
    (ha : f.Admits given) :
    scan switches room false f (w :: rest) = scan switches room false (f.adding given []) rest := by
  have htake := (takeSwitch_eq_ok_iff hv hw.looksLikeSwitch).2 ⟨given, hw, ha, rfl⟩
  rw [scan, if_neg (by simp [hw.ne_dashes hv]), if_pos (by simp [hw.looksLikeSwitch]), htake]
  rfl

theorem scan_valued (hv : IsVocabulary switches) (hw : Spells switches w.toList given (some s))
    (hvalue : looksLikeSwitch value.toList = false) (ha : f.Admits (given ++ [(s, value)])) :
    scan switches room false f (w :: value :: rest) =
      scan switches room false (f.adding (given ++ [(s, value)]) []) rest := by
  obtain ⟨hgiven, hs⟩ := (@Found.admits_append_iff _ _ _ []).1 ha
  have htake := (takeSwitch_eq_ok_iff hv hw.looksLikeSwitch).2 ⟨given, hw, hgiven, rfl⟩
  have hgive := Found.give_eq_ok_iff.2 ⟨hs, rfl⟩
  rw [scan, if_neg (by simp [hw.ne_dashes hv]), if_pos (by simp [hw.looksLikeSwitch]), htake]
  simp only [taken]
  rw [if_neg (by simp [hvalue]), hgive, Found.adding_adding]
  rfl

theorem scan_dashes :
    scan switches room false f ("--" :: rest) = scan switches room true f rest := by
  rw [scan, if_pos (by rfl)]

theorem scan_full (hw : looksLikeSwitch w.toList = false) (hroom : room ≤ f.words.length) :
    scan switches room false f (w :: rest) =
      if room = 0 then .ok ⟨f, w :: rest⟩ else .error .usage := by
  rw [scan, if_neg (by simp [ne_dashes_of_plain hw]), if_neg (by simp [hw]), if_neg (by omega)]
  simp

/-- Behind `--` the rest are words, if there is room for them. -/
theorem scan_bare (hroom : f.words.length ≤ room) {r : Scan} :
    scan switches room true f words = .ok r ↔
      f.words.length + words.length ≤ room ∧ r = ⟨f.adding [] words, []⟩ := by
  induction words generalizing f with
  | nil =>
    rw [scan, f.adding_nil]
    simp [hroom, eq_comm]
  | cons w words ih =>
    rw [scan, if_neg (by simp), if_neg (by simp)]
    split
    · next hlt =>
      rw [Found.word_eq_adding, ih (by simpa [Found.adding] using hlt), Found.adding_adding]
      simp [Found.adding, Nat.add_assoc, Nat.add_comm 1]
    · next hfull =>
      rw [if_neg (by simp)]
      constructor
      · intro h
        cases h
      · rintro ⟨hle, -⟩
        rw [List.length_cons] at hle
        omega

/-! ### Whole lists -/

theorem Found.Admits.adding_words (h : f.Admits given) (words : List String) :
    (f.adding [] words).Admits given :=
  ((@Found.admits_append_iff f [] given words).1 h).2

/-- The reader passes over words that are read so, and has found what they give. -/
theorem scan_append_of_reads (hv : IsVocabulary switches) {front : List String}
    (h : Reads switches front given words) (ha : f.Admits given)
    (hroom : f.words.length + words.length ≤ room) (rest : List String) :
    scan switches room false f (front ++ rest) =
      scan switches room false (f.adding given words) rest := by
  induction h generalizing f with
  | nil => rw [f.adding_nil, List.nil_append]
  | @word w front given words hw _ ih =>
    rw [List.length_cons] at hroom
    rw [List.cons_append, scan_plain hw (by omega), ih (ha.adding_words [w]),
      Found.adding_adding]
    · rfl
    · rw [Found.adding, List.length_append, List.length_singleton]
      omega
  | @spelled w front own given words hw _ ih =>
    obtain ⟨hown, hgiven⟩ := (@Found.admits_append_iff _ _ _ []).1 ha
    rw [List.cons_append, scan_spelled hv hw hown, ih hgiven, Found.adding_adding]
    · rfl
    · rwa [Found.adding, List.append_nil]
  | @valued w value s front own given words hw hvalue _ ih =>
    rw [List.append_cons] at ha ⊢
    obtain ⟨hown, hgiven⟩ := (@Found.admits_append_iff _ _ _ []).1 ha
    rw [List.cons_append, List.cons_append, scan_valued hv hw hvalue hown, ih hgiven,
      Found.adding_adding]
    · rfl
    · rwa [Found.adding, List.append_nil]

/-- Where the reader is behind words that it has read: at the end, at `--`, or at a word for which
there is no room. -/
inductive StopsAt (room : Nat) (f : Found) : List String → Prop
  | nil : StopsAt room f []
  | dashes (rest : List String) : StopsAt room f ("--" :: rest)
  | word {w : String} (hw : looksLikeSwitch w.toList = false) (hroom : room ≤ f.words.length)
      (rest : List String) : StopsAt room f (w :: rest)

/-- Whether a list begins with words that are read, behind which the reader stops. -/
structure Passes (switches : List Switch) (room : Nat) (f : Found) (text : List String)
    (given : Given) (words rest : List String) : Prop where
  reads : ∃ front, text = front ++ rest ∧ Reads switches front given words
  admits : f.Admits given
  fits : f.words.length + words.length ≤ room
  stops : StopsAt room (f.adding given words) rest

namespace Passes

theorem of_stopsAt (hroom : f.words.length ≤ room) (h : StopsAt room f words) :
    Passes switches room f words [] [] words where
  reads := ⟨[], rfl, .nil⟩
  admits := f.admits_nil
  fits := hroom
  stops := by rwa [f.adding_nil]

/-- What is read in front of words that are passed is passed with them. -/
theorem prepend (front : List String) {rest tail own : List String} {given' : Given}
    (h : Passes switches room (f.adding given own) rest given' words tail) (ha : f.Admits given)
    (hfront : ∀ text, Reads switches text given' words →
      Reads switches (front ++ text) (given ++ given') (own ++ words)) :
    Passes switches room f (front ++ rest) (given ++ given') (own ++ words) tail where
  reads := by
    obtain ⟨text, rfl, hreads⟩ := h.reads
    exact ⟨front ++ text, (List.append_assoc ..).symm, hfront text hreads⟩
  admits := Found.admits_append_iff.2 ⟨ha, h.admits⟩
  fits := by
    have hroom := h.fits
    rw [Found.adding, List.length_append] at hroom
    rwa [List.length_append, ← Nat.add_assoc]
  stops := by
    have hstops := h.stops
    rwa [Found.adding_adding] at hstops

end Passes

theorem scan_eq_of_passes (hv : IsVocabulary switches) {text : List String}
    (h : Passes switches room f text given words rest) :
    scan switches room false f text = scan switches room false (f.adding given words) rest := by
  obtain ⟨front, rfl, hreads⟩ := h.reads
  exact scan_append_of_reads hv hreads h.admits h.fits rest

/-- Whatever can be read to its end is passed first, up to where the reader stops. -/
theorem exists_passes_of_scan (hv : IsVocabulary switches) {text : List String} {r : Scan}
    (hroom : f.words.length ≤ room) (h : scan switches room false f text = .ok r) :
    ∃ given words rest, Passes switches room f text given words rest := by
  -- Behind `--` nothing is passed, so only the steps in front of it have an induction hypothesis to
  -- use: what is read in such a step goes in front of what the rest passes.
  generalize hbare : false = bare at h
  revert h
  fun_induction scan switches room bare f text with
  | case1 bare f => exact fun _ => ⟨_, _, _, .of_stopsAt hroom .nil⟩
  | case2 bare f w rest hw ih =>
    simp only [Bool.and_eq_true, beq_iff_eq] at hw
    rw [hw.2]
    exact fun _ => ⟨_, _, _, .of_stopsAt hroom (.dashes rest)⟩
  | case3 | case5 | case6 | case7 | case11 =>
    intro h
    cases h
  | case4 bare f w rest hdashes hlooks f₁ htake ih =>
    subst hbare
    have htake : takeSwitch switches f w.toList = .ok (taken f₁ none) := htake
    obtain ⟨own, hw, ha, rfl⟩ := (takeSwitch_eq_ok_iff hv (by simpa using hlooks)).1 htake
    intro h
    obtain ⟨given, words, tail, hpasses⟩ := ih (by rwa [Found.adding, List.append_nil]) rfl h
    exact ⟨_, _, _, hpasses.prepend [w] ha fun text => .spelled hw⟩
  | case8 bare f w hdashes hlooks f₁ s htake value rest hvalue f₂ hgive ih =>
    subst hbare
    have htake : takeSwitch switches f w.toList = .ok (taken f₁ (some s)) := htake
    obtain ⟨own, hw, ha, rfl⟩ := (takeSwitch_eq_ok_iff hv (by simpa using hlooks)).1 htake
    obtain ⟨hs, rfl⟩ := Found.give_eq_ok_iff.1 hgive
    rw [Found.adding_adding] at ih ⊢
    intro h
    obtain ⟨given, words, tail, hpasses⟩ := ih (by simpa [Found.adding] using hroom) rfl h
    refine ⟨_, _, _, hpasses.prepend [w, value] (Found.admits_append_iff.2 ⟨ha, hs⟩)
      fun text hreads => ?_⟩
    rw [← List.append_cons]
    exact .valued hw (by simpa using hvalue) hreads
  | case9 bare f w rest hdashes hlooks hlt ih =>
    subst hbare
    rw [Found.word_eq_adding] at ih ⊢
    intro h
    obtain ⟨given, words, tail, hpasses⟩ := ih (by simpa [Found.adding] using hlt) rfl h
    exact ⟨_, _, _, hpasses.prepend [w] f.admits_nil fun text =>
      .word (by simpa using hlooks)⟩
  | case10 bare f w rest hdashes hlooks hlt hzero =>
    subst hbare
    exact fun _ => ⟨_, _, _, .of_stopsAt hroom (.word (by simpa using hlooks) (by omega) rest)⟩

/-! ## What is found -/

theorem Found.none_admits_iff : Found.none.Admits given ↔ given.IsAllowed :=
  ⟨fun h => h.allowed, fun h => ⟨h, fun _ _ => .inr rfl⟩⟩

/-- The switches and words that a list comes to as a whole. -/
theorem scan_eq_ok_nil_iff (hv : IsVocabulary switches) {text : List String} {found : Found} :
    scan switches room false .none text = .ok ⟨found, []⟩ ↔
      ∃ given words, Sorts switches text given words ∧ given.IsAllowed ∧ words.length ≤ room ∧
        found = Found.none.adding given words := by
  constructor
  · intro h
    obtain ⟨given, words, rest, hpasses⟩ := exists_passes_of_scan hv (Nat.zero_le room) h
    obtain ⟨front, rfl, hreads⟩ := hpasses.reads
    have hallowed := Found.none_admits_iff.1 hpasses.admits
    have hfits : words.length ≤ room := by simpa [Found.none] using hpasses.fits
    rw [scan_eq_of_passes hv hpasses] at h
    cases hpasses.stops with
    | nil =>
      rw [scan] at h
      cases h
      rw [List.append_nil]
      exact ⟨given, words, .all hreads, hallowed, hfits, rfl⟩
    | dashes rest =>
      rw [scan_dashes, scan_bare hfits, Found.adding_adding, List.append_nil] at h
      obtain ⟨hlength, hfound⟩ := h
      cases hfound
      refine ⟨given, words ++ rest, .behind hreads rest, hallowed, ?_, rfl⟩
      rwa [List.length_append]
    | word hw hfull rest =>
      rw [scan_full hw hfull] at h
      split at h <;> cases h
  · rintro ⟨given, words, hsorts, hallowed, hfits, rfl⟩
    have hadmits := Found.none_admits_iff.2 hallowed
    cases hsorts with
    | all hreads =>
      have hpassed := scan_append_of_reads hv hreads hadmits (by simpa [Found.none] using hfits) []
      rw [List.append_nil] at hpassed
      rw [hpassed, scan]
    | @behind text _ words hreads rest =>
      rw [List.length_append] at hfits
      have hwords : Found.none.words.length + words.length ≤ room := by
        rw [Found.none, List.length_nil]
        omega
      rw [scan_append_of_reads hv hreads hadmits hwords, scan_dashes,
        scan_bare (by simpa [Found.adding, Found.none] using hwords), Found.adding_adding,
        List.append_nil]
      exact ⟨by simpa [Found.adding, Found.none] using hfits, rfl⟩

/-- Without room for words the reader stops at the first of them. -/
theorem scan_eq_ok_cons_iff (hv : IsVocabulary switches) {text : List String} {found : Found}
    {name : String} :
    scan switches 0 false .none text = .ok ⟨found, name :: rest⟩ ↔
      looksLikeSwitch name.toList = false ∧ ∃ front given, text = front ++ name :: rest ∧
        Reads switches front given [] ∧ given.IsAllowed ∧ found = Found.none.adding given [] := by
  constructor
  · intro h
    obtain ⟨given, words, tail, hpasses⟩ := exists_passes_of_scan hv (Nat.zero_le 0) h
    obtain ⟨front, rfl, hreads⟩ := hpasses.reads
    have hallowed := Found.none_admits_iff.1 hpasses.admits
    obtain rfl : words = [] := by simpa [Found.none] using hpasses.fits
    rw [scan_eq_of_passes hv hpasses] at h
    cases hpasses.stops with
    | nil =>
      rw [scan] at h
      cases h
    | dashes tail =>
      rw [scan_dashes, scan_bare (Nat.zero_le 0)] at h
      cases h.2
    | word hw hfull tail =>
      rw [scan_full hw hfull, if_pos rfl] at h
      cases h
      exact ⟨hw, front, given, rfl, hreads, hallowed, rfl⟩
  · rintro ⟨hname, front, given, rfl, hreads, hallowed, rfl⟩
    rw [scan_append_of_reads hv hreads (Found.none_admits_iff.2 hallowed) (Nat.zero_le 0),
      scan_full hname (Nat.zero_le _), if_pos rfl]

end VaultPki.CommandLine
