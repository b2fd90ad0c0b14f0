import LogAssay.Number.Binary64
import LogAssay.Text.Hex

/-!
# Timestamps

A timestamp is a whole number of microseconds since 1970 in coordinated universal time, between the years 1
and 9999 of the Gregorian calendar. Backends give times as seconds in floating point; the fraction of a
second is scaled to microseconds in floating point too, and then rounded to the nearest integer, a half to
the even one.
-/

namespace LogAssay

/-- A day of the Gregorian calendar. -/
structure Date where
  year : Int
  month : Nat
  day : Nat
  deriving DecidableEq, Repr

namespace Date

/-- The day that lies the given number of days after the first of January 1970. The count starts with the
first of March of the year 0, so that leap days end their years. -/
def ofDays (days : Int) : Date :=
  let shifted := days + 719468
  let era := shifted / 146097
  let dayOfEra := (shifted % 146097).toNat
  let yearOfEra := (dayOfEra - dayOfEra / 1460 + dayOfEra / 36524 - dayOfEra / 146096) / 365
  let dayOfYear := dayOfEra - (365 * yearOfEra + yearOfEra / 4 - yearOfEra / 100)
  let month := (5 * dayOfYear + 2) / 153
  let day := dayOfYear - (153 * month + 2) / 5 + 1
  if month < 10 then ⟨era * 400 + yearOfEra, month + 3, day⟩
  else ⟨era * 400 + yearOfEra + 1, month - 9, day⟩

/-- A number in decimal notation with zeros in front up to the width. -/
def places (width : Nat) (n : Nat) : String :=
  String.ofList (Text.padded width (Decimal.ofNat n))

/-- The day as `YYYY-MM-DD`. -/
def text (d : Date) : String :=
  places 4 d.year.toNat ++ "-" ++ places 2 d.month ++ "-" ++ places 2 d.day

/-- The day that a text of the form `YYYY-MM-DD` gives. -/
def read? (s : List Char) : Option Date :=
  match s with
  | [a, b, c, d, '-', e, f, '-', g, h] =>
    if [a, b, c, d, e, f, g, h].all Char.isDigit then
      some ⟨Decimal.toNat [a, b, c, d], Decimal.toNat [e, f], Decimal.toNat [g, h]⟩
    else none
  | _ => none

end Date

/-- Microseconds since the start of 1970. -/
structure Timestamp where
  micros : Int
  deriving DecidableEq, Repr

namespace Timestamp

/-- Why a number of seconds is no timestamp. -/
inductive Problem where
  /-- The number of seconds is no number. -/
  | notANumber
  /-- The seconds do not fit the clock's 64 bits. -/
  | beyondClock
  /-- The year does not fit the calendar's 32 bits. -/
  | beyondCalendar
  /-- The year lies outside 1 to 9999. -/
  | year (year : Int)
  /-- A shifted timestamp left the calendar. -/
  | shifted
  deriving DecidableEq, Repr

def date (t : Timestamp) : Date := Date.ofDays (t.micros / 86400000000)

def ofMicros (micros : Int) : Except Problem Timestamp :=
  let seconds := micros / 1000000
  if seconds < -0x8000000000000000 ∨ 0x8000000000000000 ≤ seconds then .error .beyondClock
  else
    let year := (Timestamp.mk micros).date.year
    if year - 1900 < -0x80000000 ∨ 0x80000000 ≤ year - 1900 then .error .beyondCalendar
    else if 1 ≤ year ∧ year ≤ 9999 then .ok ⟨micros⟩
    else .error (.year (year.bmod 0x100000000))

/-- The microseconds in a fraction of a second, given in units of the floating-point format. -/
def microsOfFraction (units : Nat) : Nat :=
  Binary64.divNearest (Binary64.roundUnits (units * 1000000) 1) Binary64.one

/-- The timestamp of a number of seconds since the start of 1970. -/
def ofSeconds : Binary64 → Except Problem Timestamp
  | .nan => .error .notANumber
  | .infinite _ => .error .beyondClock
  | .finite negative units _ =>
    let micros := units / Binary64.one * 1000000 + microsOfFraction (units % Binary64.one)
    ofMicros (Binary64.signed negative micros)

def after (t : Timestamp) (micros : Int) : Except Problem Timestamp :=
  match ofMicros (t.micros + micros) with
  | .ok later => .ok later
  | .error _ => .error .shifted

/-- The timestamp as `YYYY-MM-DDTHH:MM:SS.ffffff+00:00`. -/
def text (t : Timestamp) : String :=
  let inDay := (t.micros % 86400000000).toNat
  let seconds := inDay / 1000000
  t.date.text ++ "T" ++ Date.places 2 (seconds / 3600) ++ ":" ++ Date.places 2 (seconds / 60 % 60)
    ++ ":" ++ Date.places 2 (seconds % 60) ++ "." ++ Date.places 6 (inDay % 1000000) ++ "+00:00"

end Timestamp

end LogAssay
