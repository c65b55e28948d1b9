import VaultPki.Calendar.Date
import VaultPki.Error
import VaultPki.Text.Ascii

/-!
# Instants

Points in time to the second, counted from the beginning of 1970 in universal time. The calendar
reaches from the year -9999 to the year 9999.
-/

namespace VaultPki

structure Instant where
  seconds : Int
  reached : -377705116800 ≤ seconds ∧ seconds ≤ 253402300799

namespace Instant

/-- The instant so many seconds from the beginning of 1970. -/
def ofSeconds (seconds : Int) : Except Error Instant :=
  if h : -377705116800 ≤ seconds ∧ seconds ≤ 253402300799 then .ok ⟨seconds, h⟩
  else .error (.timeOutOfRange seconds)

def date (i : Instant) : Calendar.Date :=
  .ofNumber (i.seconds / 86400)

def secondOfDay (i : Instant) : Nat :=
  (i.seconds % 86400).toNat

def yearText (year : Int) : String :=
  if year < 0 then "-" ++ Text.Ascii.paddedDecimal 4 year.natAbs
  else Text.Ascii.paddedDecimal 4 year.natAbs

/-- An instant as text: date, time of day and the offset from universal time, which is none. The
hour is not padded. -/
def toText (i : Instant) : String :=
  let d := i.date
  let s := i.secondOfDay
  yearText d.year ++ "-" ++ Text.Ascii.paddedDecimal 2 d.month ++ "-" ++
    Text.Ascii.paddedDecimal 2 d.day ++ " " ++ Text.Ascii.paddedDecimal 1 (s / 3600) ++ ":" ++
    Text.Ascii.paddedDecimal 2 (s / 60 % 60) ++ ":" ++ Text.Ascii.paddedDecimal 2 (s % 60) ++
    ".0 +00:00:00"

end Instant

end VaultPki
