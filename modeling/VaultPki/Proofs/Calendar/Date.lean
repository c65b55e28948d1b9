import Mathlib
import VaultPki.Calendar.Date

/-!
# Counting days

A day of the calendar has the number that one gets by counting days from 1970-01-01, forward or
backward. Every number is that of a valid date, which is the only one with it.

Years are taken to begin in March here too: such a year ends with February, so with the leap day if
there is one.
-/

namespace VaultPki.Calendar

/-! ## Years from March to February -/

/-- The year from March to February contains the leap day of the calendar year in which it ends. -/
theorem daysOfYears_succ (year : Int) :
    daysOfYears (year + 1) = daysOfYears year + if isLeap (year + 1) then 366 else 365 := by
  unfold daysOfYears isLeap
  simp only [Bool.and_eq_true, Bool.or_eq_true, beq_iff_eq, bne_iff_ne]
  split <;> omega

theorem daysOfYears_le {year year' : Int} (h : year ≤ year') :
    daysOfYears year ≤ daysOfYears year' := by
  unfold daysOfYears
  omega

theorem daysOfYears_add_cycles (year cycles : Int) :
    daysOfYears (year + 400 * cycles) = daysOfYears year + 146097 * cycles := by
  unfold daysOfYears
  omega

/-! ## Within four hundred years -/

theorem daysOfYears_ofNat {y : Nat} (h : y < 400) :
    daysOfYears y = (365 * y + y / 4 - y / 100 : Nat) := by
  unfold daysOfYears
  omega

/-- A day of a cycle lies in one of its years, and behind the 365th day only if that year ends with
a leap day. -/
theorem exists_yearOfCycle {n : Nat} (h : n < 146097) :
    ∃ y t, n = 365 * y + y / 4 - y / 100 + t ∧ y < 400 ∧
      (t < 365 ∨ t = 365 ∧ y % 4 = 3 ∧ (y % 100 = 99 → y = 399)) := by
  -- Centuries, then groups of four years, then years; the last of each kind may be longer.
  obtain ⟨c, r, hc, hr, rfl⟩ : ∃ c r, c < 4 ∧ (r < 36524 ∨ r = 36524 ∧ c = 3) ∧
      n = 36524 * c + r := by
    refine ⟨min (n / 36524) 3, n - 36524 * min (n / 36524) 3, ?_, ?_, ?_⟩ <;> omega
  obtain ⟨q, s, hq, hs, rfl⟩ : ∃ q s, q < 25 ∧ (s < 1460 ∨ s = 1460 ∧ (q = 24 → c = 3)) ∧
      r = 1461 * q + s := by
    refine ⟨r / 1461, r % 1461, ?_, ?_, ?_⟩ <;> omega
  obtain ⟨k, t, hk, ht, rfl⟩ : ∃ k t, k < 4 ∧ (t < 365 ∨ t = 365 ∧ k = 3 ∧ s = 1460) ∧
      s = 365 * k + t := by
    refine ⟨min (s / 365) 3, s - 365 * min (s / 365) 3, ?_, ?_, ?_⟩ <;> omega
  have hfours : (100 * c + 4 * q + k) / 4 = 25 * c + q := by omega
  have hhundreds : (100 * c + 4 * q + k) / 100 = c := by omega
  refine ⟨100 * c + 4 * q + k, t, ?_, ?_, ?_⟩
  · rw [hfours, hhundreds]
    omega
  · omega
  · omega

/-- Taking out the leap days passed leaves 365 days for each year. -/
theorem yearOfCycle_eq {n y t : Nat} (hn : n = 365 * y + y / 4 - y / 100 + t) (hy : y < 400)
    (ht : t < 365 ∨ t = 365 ∧ y % 4 = 3 ∧ (y % 100 = 99 → y = 399)) :
    (n - n / 1460 + n / 36524 - n / 146096) / 365 = y := by
  have hlast : n / 146096 = if y = 399 ∧ t = 365 then 1 else 0 := by
    split <;> omega
  have hcenturies : n / 36524 = y / 100 + if y = 399 ∧ t = 365 then 1 else 0 := by
    split <;> omega
  have hfours :
      n / 1460 = y / 4 + if y % 4 = 3 ∧ 365 ≤ t + (y / 4 - y / 100) then 1 else 0 := by
    split <;> omega
  rw [hlast, hcenturies, hfours]
  split <;> split <;> omega

namespace Date

variable {d d' : Date}

/-! ## The number of a date -/

/-- The year from March to February in which a date lies. -/
def marchYear (d : Date) : Int :=
  if d.month ≤ 2 then d.year - 1 else d.year

/-- The months of that year that have passed. -/
def marchMonth (d : Date) : Nat :=
  if d.month ≤ 2 then d.month + 9 else d.month - 3

/-- The days of that year that have passed. -/
def dayOfYear (d : Date) : Nat :=
  daysOfMonths d.marchMonth + (d.day - 1)

theorem number_eq (h : d.IsValid) : d.number = daysOfYears d.marchYear + d.dayOfYear - epoch := by
  obtain ⟨-, -, hday, -⟩ := h
  unfold number dayOfYear marchYear marchMonth
  split <;> omega

/-- Only the leap day has 365 days of its year in front of it. -/
theorem dayOfYear_cases (h : d.IsValid) :
    d.dayOfYear < 365 ∨ d.dayOfYear = 365 ∧ isLeap (d.marchYear + 1) = true := by
  obtain ⟨year, month, day⟩ := d
  obtain ⟨hfirst, hlast, -, hday⟩ := h
  simp only at hfirst hlast hday
  unfold dayOfYear marchYear marchMonth daysOfMonths
  cases hleap : isLeap year <;> interval_cases month <;>
    simp [daysInMonth, hleap] at hday ⊢ <;> omega

theorem dayOfYear_lt (h : d.IsValid) :
    daysOfYears d.marchYear + d.dayOfYear < daysOfYears (d.marchYear + 1) := by
  rw [daysOfYears_succ]
  rcases dayOfYear_cases h with hday | ⟨hday, hleap⟩
  · split <;> omega
  · rw [hleap, if_pos rfl]
    omega

/-- The month and the day are found again from the days of the year that have passed. -/
theorem marchMonth_eq (h : d.IsValid) : d.marchMonth = (5 * d.dayOfYear + 2) / 153 := by
  obtain ⟨year, month, day⟩ := d
  obtain ⟨hfirst, hlast, hpos, hday⟩ := h
  simp only at hfirst hlast hpos hday
  unfold dayOfYear marchMonth daysOfMonths
  cases hleap : isLeap year <;> interval_cases month <;>
    simp [daysInMonth, hleap] at hday ⊢ <;> omega

theorem ext_of_march (h : d.IsValid) (h' : d'.IsValid) (hyear : d.marchYear = d'.marchYear)
    (hday : d.dayOfYear = d'.dayOfYear) : d = d' := by
  have hmonth : d.marchMonth = d'.marchMonth := by
    rw [marchMonth_eq h, marchMonth_eq h', hday]
  obtain ⟨year, month, day⟩ := d
  obtain ⟨year', month', day'⟩ := d'
  obtain ⟨hfirst, hlast, hpos, -⟩ := h
  obtain ⟨hfirst', hlast', hpos', -⟩ := h'
  unfold dayOfYear at hday
  rw [hmonth] at hday
  unfold marchMonth at hmonth
  unfold marchYear at hyear
  simp only at *
  have hmonth' : month = month' := by
    split at hmonth <;> split at hmonth <;> omega
  subst hmonth'
  have hyear' : year = year' := by
    split at hyear <;> omega
  have hday' : day = day' := by omega
  rw [hyear', hday']

/-- Two valid dates with one number are the same. -/
theorem number_inj (h : d.IsValid) (h' : d'.IsValid) (hnumber : d.number = d'.number) :
    d = d' := by
  rw [number_eq h, number_eq h'] at hnumber
  have hbelow := dayOfYear_lt h
  have hbelow' := dayOfYear_lt h'
  rcases lt_trichotomy d.marchYear d'.marchYear with hlt | heq | hgt
  · have hle : daysOfYears (d.marchYear + 1) ≤ daysOfYears d'.marchYear := daysOfYears_le hlt
    omega
  · rw [heq] at hnumber
    exact ext_of_march h h' heq (by omega)
  · have hle : daysOfYears (d'.marchYear + 1) ≤ daysOfYears d.marchYear := daysOfYears_le hgt
    omega

/-! ## The first days of years -/

theorem number_newYear (year : Int) :
    (⟨year, 1, 1⟩ : Date).number = daysOfYears (year - 1) + 306 - epoch := by
  simp [number, daysOfMonths]

theorem newYear_le_number (h : d.IsValid) : (⟨d.year, 1, 1⟩ : Date).number ≤ d.number := by
  obtain ⟨hfirst, -, hpos, -⟩ := h
  have hyear : daysOfYears (d.year - 1) + 365 ≤ daysOfYears d.year := by
    unfold daysOfYears
    omega
  rw [number_newYear, number]
  unfold daysOfMonths
  split <;> omega

theorem number_lt_newYear (h : d.IsValid) : d.number < (⟨d.year + 1, 1, 1⟩ : Date).number := by
  have hyear : daysOfYears (d.year - 1) + 365 ≤ daysOfYears d.year := by
    unfold daysOfYears
    omega
  obtain ⟨hfirst, hlast, hpos, hday⟩ := h
  have hlength : d.day ≤ 31 := by
    refine hday.trans ?_
    unfold daysInMonth
    split
    · split <;> decide
    all_goals decide
  rw [number_newYear, Int.add_sub_cancel, number]
  unfold daysOfMonths
  split <;> omega

theorem newYear_le_iff (h : d.IsValid) (year : Int) :
    (⟨year, 1, 1⟩ : Date).number ≤ d.number ↔ year ≤ d.year := by
  have hmono {y y' : Int} (hle : y ≤ y') :
      (⟨y, 1, 1⟩ : Date).number ≤ (⟨y', 1, 1⟩ : Date).number := by
    have hdays : daysOfYears (y - 1) ≤ daysOfYears (y' - 1) := daysOfYears_le (by omega)
    rw [number_newYear, number_newYear]
    omega
  constructor
  · intro hle
    by_contra hyear
    have hnext : (⟨d.year + 1, 1, 1⟩ : Date).number ≤ (⟨year, 1, 1⟩ : Date).number :=
      hmono (by omega)
    have hbelow := number_lt_newYear h
    omega
  · intro hyear
    exact (hmono hyear).trans (newYear_le_number h)

/-! ## The date of a number -/

/-- The date so many days behind 1 March of a year. -/
def ofMarch (year : Int) (days : Nat) : Date :=
  let month := (5 * days + 2) / 153
  let day := days - daysOfMonths month + 1
  if month < 10 then ⟨year, month + 3, day⟩ else ⟨year + 1, month - 9, day⟩

variable {year : Int} {days : Nat}

theorem isValid_ofMarch (h : days < 365 ∨ days = 365 ∧ isLeap (year + 1) = true) :
    (ofMarch year days).IsValid := by
  obtain ⟨month, hmonth⟩ : ∃ month, month = (5 * days + 2) / 153 := ⟨_, rfl⟩
  have hlast : month < 12 := by omega
  unfold ofMarch IsValid daysOfMonths
  rw [← hmonth]
  cases hleap : isLeap (year + 1) <;> interval_cases month <;>
    simp [daysInMonth, hleap] at h ⊢ <;> omega

theorem number_ofMarch (year : Int) (h : days < 366) :
    (ofMarch year days).number = daysOfYears year + days - epoch := by
  obtain ⟨month, hmonth⟩ : ∃ month, month = (5 * days + 2) / 153 := ⟨_, rfl⟩
  have hfront : daysOfMonths month ≤ days := by
    unfold daysOfMonths
    omega
  unfold ofMarch number
  rw [← hmonth]
  by_cases hten : month < 10
  · have hbehind : ¬month + 3 ≤ 2 := by omega
    simp only [if_pos hten, if_neg hbehind, Nat.add_sub_cancel]
    omega
  · have hbehind : month - 9 ≤ 2 := by omega
    have hback : month - 9 + 9 = month := by omega
    simp only [if_neg hten, if_pos hbehind, hback, Int.add_sub_cancel]
    omega

/-- A number is taken apart into a year and the days behind its beginning. -/
theorem exists_ofMarch_eq (n : Int) :
    ∃ year days, ofNumber n = ofMarch year days ∧ n = daysOfYears year + days - epoch ∧
      (days < 365 ∨ days = 365 ∧ isLeap (year + 1) = true) := by
  obtain ⟨cycle, k, hk, hn⟩ : ∃ (cycle : Int) (k : Nat), k < 146097 ∧
      n + epoch = 146097 * cycle + k :=
    ⟨(n + epoch) / 146097, ((n + epoch) % 146097).toNat, by omega, by omega⟩
  obtain ⟨y, t, hparts, hy, ht⟩ := exists_yearOfCycle hk
  have hcycle : (n + epoch) / 146097 = cycle := by omega
  have hday : ((n + epoch) % 146097).toNat = k := by omega
  have hyear := yearOfCycle_eq hparts hy ht
  have hrest : k - (365 * y + y / 4 - y / 100) = t := by omega
  refine ⟨y + 400 * cycle, t, ?_, ?_, ?_⟩
  · unfold ofNumber ofMarch
    simp only [hcycle, hday, hyear, hrest]
  · have hfront : 365 * y + y / 4 - y / 100 ≤ k := by omega
    rw [daysOfYears_add_cycles, daysOfYears_ofNat hy]
    omega
  · refine ht.imp_right fun ⟨ht, hfour, hhundred⟩ => ⟨ht, ?_⟩
    unfold isLeap
    simp only [Bool.and_eq_true, Bool.or_eq_true, beq_iff_eq, bne_iff_ne]
    omega

theorem isValid_ofNumber (n : Int) : (ofNumber n).IsValid := by
  obtain ⟨year, days, heq, -, hdays⟩ := exists_ofMarch_eq n
  rw [heq]
  exact isValid_ofMarch hdays

theorem number_ofNumber (n : Int) : (ofNumber n).number = n := by
  obtain ⟨year, days, heq, hn, hdays⟩ := exists_ofMarch_eq n
  rw [heq, number_ofMarch year (by omega), ← hn]

/-! ## One day after the other -/

/-- The day after a date. -/
def next (d : Date) : Date :=
  if d.day < daysInMonth d.year d.month then { d with day := d.day + 1 }
  else if d.month < 12 then ⟨d.year, d.month + 1, 1⟩
  else ⟨d.year + 1, 1, 1⟩

/-- The day from which days are counted. -/
def origin : Date := ⟨1970, 1, 1⟩

/-- Whether a date lies so many days behind the first, or in front of it, when they are counted one
by one. -/
inductive IsDay : Date → Int → Prop
  | behind (k : Nat) : IsDay (next^[k] origin) k
  | before {d : Date} {k : Nat} (h : next^[k] d = origin) : IsDay d (-k)

theorem isValid_origin : origin.IsValid := by
  unfold IsValid
  decide

theorem daysInMonth_pos (year : Int) (month : Nat) : 1 ≤ daysInMonth year month := by
  unfold daysInMonth
  split
  · split <;> decide
  all_goals decide

theorem isValid_next (h : d.IsValid) : d.next.IsValid := by
  obtain ⟨hfirst, hlast, hpos, -⟩ := h
  unfold next
  split
  next hday => exact ⟨hfirst, hlast, by simp, hday⟩
  next =>
    split
    next hmonth => exact ⟨by simp, hmonth, le_rfl, daysInMonth_pos _ _⟩
    next => exact ⟨le_rfl, by simp, le_rfl, daysInMonth_pos _ _⟩

theorem number_first_of_march (year : Int) :
    (⟨year, 3, 1⟩ : Date).number = (⟨year, 2, daysInMonth year 2⟩ : Date).number + 1 := by
  have hyear := daysOfYears_succ (year - 1)
  rw [Int.sub_add_cancel] at hyear
  simp only [number, daysOfMonths, daysInMonth]
  cases hleap : isLeap year <;> simp [hleap] at hyear ⊢ <;> omega

/-- The first day of a month follows the last one of the month in front of it. -/
theorem number_first_of_month (year : Int) {month : Nat} (hfirst : 1 ≤ month) (hlast : month < 12) :
    (⟨year, month + 1, 1⟩ : Date).number =
      (⟨year, month, daysInMonth year month⟩ : Date).number + 1 := by
  by_cases hmonth : month = 2
  · rw [hmonth]
    exact number_first_of_march year
  · interval_cases month <;> simp [number, daysOfMonths, daysInMonth] at hmonth ⊢ <;> omega

theorem number_next (h : d.IsValid) : d.next.number = d.number + 1 := by
  obtain ⟨year, month, day⟩ := d
  obtain ⟨hfirst, hlast, hpos, hday⟩ := h
  simp only at hfirst hlast hpos hday
  unfold next
  simp only
  split
  next =>
    unfold number
    split <;> simp only <;> omega
  next hover =>
    have hend : day = daysInMonth year month := by omega
    rw [hend]
    split
    next hmonth => exact number_first_of_month year hfirst hmonth
    next hmonth =>
      have htwelve : month = 12 := by omega
      rw [htwelve]
      simp [number, daysOfMonths, daysInMonth]
      omega

theorem isValid_iterate_next (h : d.IsValid) (k : Nat) : (next^[k] d).IsValid := by
  induction k generalizing d with
  | zero => exact h
  | succ k ih => exact ih (isValid_next h)

theorem number_iterate_next (h : d.IsValid) (k : Nat) : (next^[k] d).number = d.number + k := by
  induction k generalizing d with
  | zero => simp
  | succ k ih =>
    rw [Function.iterate_succ_apply, ih (isValid_next h), number_next h]
    omega

theorem IsDay.number_eq {n : Int} (hd : d.IsValid) (h : d.IsDay n) : d.number = n := by
  have horigin : origin.number = 0 := by decide
  cases h with
  | behind k =>
    rw [number_iterate_next isValid_origin, horigin, Int.zero_add]
  | @before _ k h =>
    have hnumber := number_iterate_next hd k
    rw [h, horigin] at hnumber
    omega

theorem IsDay.unique {m n : Int} (hd : d.IsValid) (h : d.IsDay m) (h' : d.IsDay n) : m = n :=
  (h.number_eq hd).symm.trans (h'.number_eq hd)

/-- The number of a valid date is its place in the sequence of days. -/
theorem isDay_ofNumber (n : Int) : (ofNumber n).IsDay n := by
  have hvalid := isValid_ofNumber n
  have hnumber := number_ofNumber n
  have horigin : origin.number = 0 := by decide
  rcases Int.eq_nat_or_neg n with ⟨k, rfl | rfl⟩
  · have hiterate := number_iterate_next isValid_origin k
    have hsame : ofNumber k = next^[k] origin :=
      number_inj hvalid (isValid_iterate_next isValid_origin k) (by omega)
    rw [hsame]
    exact .behind k
  · have hiterate := number_iterate_next hvalid k
    exact .before (number_inj (isValid_iterate_next hvalid k) isValid_origin (by omega))

end Date

end VaultPki.Calendar
