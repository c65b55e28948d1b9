import VaultPki.Calendar.Instant
import VaultPki.Proofs.Calendar.Date
import VaultPki.Proofs.Text.Decimal

/-!
# Instants as they are shown

The text of an instant denotes a valid date and time of day, and these lie exactly as many seconds
from the beginning of 1970 as the instant does. A text denotes one moment at most, so instants that
are shown alike are the same.
-/

namespace VaultPki

open Text.Ascii Calendar

/-- A date and a time of day, in universal time. -/
structure Moment where
  date : Date
  hour : Nat
  minute : Nat
  second : Nat

namespace Moment

variable {m m' : Moment} {text : String} {s t : Int}

structure IsValid (m : Moment) : Prop where
  date : m.date.IsValid
  hour : m.hour < 24
  minute : m.minute < 60
  second : m.second < 60

/-- Whether a moment lies so many seconds behind the beginning of 1970-01-01. -/
def IsAt (m : Moment) (t : Int) : Prop :=
  ∃ days, m.date.IsDay days ∧ t = 86400 * days + 3600 * m.hour + 60 * m.minute + m.second

/-- Whether a text consists of the numerals of a date and a time of day, with the signs between
them, no fraction of a second and no offset from universal time. -/
inductive IsDenotedBy (m : Moment) (text : String) : Prop
  | intro {year month day hour minute second : List Char}
      (hyear : decimal? year = some m.date.year.natAbs) (hmonth : decimal? month = some m.date.month)
      (hday : decimal? day = some m.date.day) (hhour : decimal? hour = some m.hour)
      (hminute : decimal? minute = some m.minute) (hsecond : decimal? second = some m.second)
      (htext : text.toList = (if m.date.year < 0 then ['-'] else []) ++ (year ++ '-' :: (month ++
        '-' :: (day ++ ' ' :: (hour ++ ':' :: (minute ++ ':' :: (second ++
          ".0 +00:00:00".toList)))))))

/-- A numeral ends where a sign that is no digit follows. -/
theorem numeral_inj {c : Char} (hc : c.isDigit = false) {cs cs' rest rest' : List Char} {n n' : Nat}
    (hcs : decimal? cs = some n) (hcs' : decimal? cs' = some n')
    (h : cs ++ c :: rest = cs' ++ c :: rest') : n = n' ∧ rest = rest' := by
  have hstop : ¬c.isDigit = true := by simp [hc]
  have hfront := congrArg (List.takeWhile Char.isDigit) h
  rw [List.takeWhile_append_of_pos (isDigit_of_decimal? hcs),
    List.takeWhile_append_of_pos (isDigit_of_decimal? hcs'), List.takeWhile_cons_of_neg hstop,
    List.takeWhile_cons_of_neg hstop, List.append_nil, List.append_nil] at hfront
  subst hfront
  cases hcs.symm.trans hcs'
  exact ⟨rfl, (List.cons.inj (List.append_cancel_left h)).2⟩

/-- The sign of a year is seen by the first character. -/
theorem sign_inj {year year' : Int} {cs cs' rest rest' : List Char} {n n' : Nat}
    (hcs : decimal? cs = some n) (hcs' : decimal? cs' = some n')
    (h : (if year < 0 then ['-'] else []) ++ (cs ++ rest) =
      (if year' < 0 then ['-'] else []) ++ (cs' ++ rest')) :
    (year < 0 ↔ year' < 0) ∧ cs ++ rest = cs' ++ rest' := by
  have hunsigned : ∀ (ds tail tail' : List Char) (k : Nat), decimal? ds = some k →
      ds ++ tail ≠ '-' :: tail' := by
    intro ds tail tail' k hds heq
    cases ds with
    | nil => exact ne_nil_of_decimal? hds rfl
    | cons d ds =>
      have hd : d.isDigit = true := isDigit_of_decimal? hds d List.mem_cons_self
      rw [(List.cons.inj heq).1] at hd
      cases hd
  by_cases hyear : year < 0 <;> by_cases hyear' : year' < 0
  · rw [if_pos hyear, if_pos hyear'] at h
    exact ⟨iff_of_true hyear hyear', (List.cons.inj h).2⟩
  · rw [if_pos hyear, if_neg hyear', List.nil_append] at h
    exact absurd h.symm (hunsigned _ _ _ _ hcs')
  · rw [if_neg hyear, if_pos hyear', List.nil_append] at h
    exact absurd h (hunsigned _ _ _ _ hcs)
  · rw [if_neg hyear, if_neg hyear'] at h
    exact ⟨iff_of_false hyear hyear', h⟩

/-- A text denotes one moment at most. -/
theorem IsDenotedBy.unique (h : m.IsDenotedBy text) (h' : m'.IsDenotedBy text) : m = m' := by
  obtain ⟨hY, hM, hD, hh, hm, hs, htext⟩ := h
  obtain ⟨hY', hM', hD', hh', hm', hs', htext'⟩ := h'
  obtain ⟨hsign, hrest⟩ := sign_inj hY hY' (htext.symm.trans htext')
  obtain ⟨hyear, hrest⟩ := numeral_inj rfl hY hY' hrest
  obtain ⟨hmonth, hrest⟩ := numeral_inj rfl hM hM' hrest
  obtain ⟨hday, hrest⟩ := numeral_inj rfl hD hD' hrest
  obtain ⟨hhour, hrest⟩ := numeral_inj rfl hh hh' hrest
  obtain ⟨hminute, hrest⟩ := numeral_inj rfl hm hm' hrest
  obtain ⟨hsecond, -⟩ := numeral_inj rfl hs hs' hrest
  obtain ⟨⟨year, month, day⟩, hour, minute, second⟩ := m
  obtain ⟨⟨year', month', day'⟩, hour', minute', second'⟩ := m'
  simp only at hsign hyear hmonth hday hhour hminute hsecond
  have hyear' : year = year' := by omega
  rw [hyear', hmonth, hday, hhour, hminute, hsecond]

theorem IsAt.unique (hm : m.IsValid) (h : m.IsAt s) (h' : m.IsAt t) : s = t := by
  obtain ⟨days, hdays, rfl⟩ := h
  obtain ⟨days', hdays', rfl⟩ := h'
  rw [hdays.unique hm.date hdays']

/-- The instants that there are lie in the years from -9999 to 9999. -/
theorem IsAt.isReached_iff (hm : m.IsValid) (h : m.IsAt t) :
    (-377705116800 ≤ t ∧ t ≤ 253402300799) ↔ -9999 ≤ m.date.year ∧ m.date.year ≤ 9999 := by
  obtain ⟨days, hdays, rfl⟩ := h
  obtain ⟨hdate, hhour, hminute, hsecond⟩ := hm
  have hnumber := hdays.number_eq hdate
  have hfirst := Date.newYear_le_iff hdate (-9999)
  have hlast := Date.newYear_le_iff hdate 10000
  have hfirstNumber : (⟨-9999, 1, 1⟩ : Date).number = -4371587 := by decide
  have hlastNumber : (⟨10000, 1, 1⟩ : Date).number = 2932897 := by decide
  omega

end Moment

namespace Instant

/-- The moment that an instant is. -/
def moment (i : Instant) : Moment where
  date := i.date
  hour := i.secondOfDay / 3600
  minute := i.secondOfDay / 60 % 60
  second := i.secondOfDay % 60

theorem isValid_moment (i : Instant) : i.moment.IsValid := by
  have hday : i.secondOfDay < 86400 := by
    unfold secondOfDay
    omega
  refine ⟨Date.isValid_ofNumber _, ?_, ?_, ?_⟩ <;> simp only [moment] <;> omega

theorem isAt_moment (i : Instant) : i.moment.IsAt i.seconds := by
  refine ⟨i.seconds / 86400, Date.isDay_ofNumber _, ?_⟩
  simp only [moment, secondOfDay]
  omega

theorem isDenotedBy_toText (i : Instant) : i.moment.IsDenotedBy i.toText := by
  refine ⟨decimal?_paddedDecimal 4 _, decimal?_paddedDecimal 2 _, decimal?_paddedDecimal 2 _,
    decimal?_paddedDecimal 1 _, decimal?_paddedDecimal 2 _, decimal?_paddedDecimal 2 _, ?_⟩
  unfold toText yearText
  simp only [moment]
  by_cases hyear : i.date.year < 0 <;> simp [hyear, String.toList_append]

theorem toText_injective : Function.Injective toText := by
  intro i j h
  have hmoment : i.moment = j.moment := (h ▸ i.isDenotedBy_toText).unique j.isDenotedBy_toText
  have hseconds : i.seconds = j.seconds :=
    i.isAt_moment.unique i.isValid_moment (hmoment ▸ j.isAt_moment)
  obtain ⟨seconds, _⟩ := i
  obtain ⟨seconds', _⟩ := j
  cases hseconds
  rfl

end Instant

end VaultPki
