import LogAssay.Timestamp

/-!
# The range of the calendar

A timestamp lies in the years 1 to 9999. These are the days from the first of January of the year 1, which lies 719162
days before that of 1970, up to the last of December of the year 9999. Everything in between is a timestamp, and
nothing else is.

## Main statements

* `Date.year_inRange_iff`: the days of the years 1 to 9999.
* `Timestamp.ofMicros_ok_iff`, `Timestamp.ofSeconds_ok_iff`: what is a timestamp.
-/

namespace LogAssay

namespace Date

/-! ## Years -/

/-- The year of a day in its era of four hundred, where years begin in March. -/
def yearOfEra (dayOfEra : Nat) : Nat :=
  (dayOfEra - dayOfEra / 1460 + dayOfEra / 36524 - dayOfEra / 146096) / 365

/-- The day in such a year. -/
def dayOfYear (dayOfEra : Nat) : Nat :=
  dayOfEra - (365 * yearOfEra dayOfEra + yearOfEra dayOfEra / 4 - yearOfEra dayOfEra / 100)

section

variable {dayOfEra : Nat} (h : dayOfEra < 146097)

include h

theorem yearOfEra_le : yearOfEra dayOfEra ≤ 399 := by
  unfold yearOfEra
  omega

theorem yearOfEra_eq_zero_iff : yearOfEra dayOfEra = 0 ↔ dayOfEra < 365 := by
  unfold yearOfEra
  omega

theorem yearOfEra_eq_last_iff : yearOfEra dayOfEra = 399 ↔ 145731 ≤ dayOfEra := by
  unfold yearOfEra
  omega

end

/-- From January on, a day is in the next year of the calendar. -/
theorem year_ofDays (days : Int) {dayOfEra : Nat} (h : ((days + 719468) % 146097).toNat = dayOfEra) :
    (ofDays days).year = (days + 719468) / 146097 * 400 + yearOfEra dayOfEra
      + if dayOfYear dayOfEra < 306 then 0 else 1 := by
  have hmonth : (5 * dayOfYear dayOfEra + 2) / 153 < 10 ↔ dayOfYear dayOfEra < 306 := by omega
  subst h
  unfold ofDays
  simp only [← yearOfEra.eq_1, ← dayOfYear.eq_1, hmonth]
  split
  · exact (Int.add_zero _).symm
  · rfl

/-- **The days of the years 1 to 9999.** -/
theorem year_inRange_iff (days : Int) :
    (1 ≤ (ofDays days).year ∧ (ofDays days).year ≤ 9999) ↔ -719162 ≤ days ∧ days < 2932897 := by
  -- the year 1 begins in the first year of an era, and the year 9999 ends in the last year of another one
  obtain ⟨dayOfEra, hday⟩ : ∃ n, ((days + 719468) % 146097).toNat = n := ⟨_, rfl⟩
  have hlt : dayOfEra < 146097 := by omega
  have hle := yearOfEra_le hlt
  have hzero := yearOfEra_eq_zero_iff hlt
  have hlast := yearOfEra_eq_last_iff hlt
  have hyear := year_ofDays days hday
  unfold dayOfYear at hyear
  split at hyear
  · omega
  · omega

example : ofDays (-719162) = ⟨1, 1, 1⟩ ∧ ofDays 2932896 = ⟨9999, 12, 31⟩ := by decide

end Date

namespace Timestamp

/-! ## Timestamps -/

/-- The microseconds of a timestamp. -/
def InCalendar (micros : Int) : Prop := -62135596800000000 ≤ micros ∧ micros < 253402300800000000

instance (micros : Int) : Decidable (InCalendar micros) := inferInstanceAs (Decidable (_ ∧ _))

/-- **Which microseconds give a timestamp.** -/
theorem ofMicros_ok_iff {micros : Int} {t : Timestamp} :
    ofMicros micros = .ok t ↔ InCalendar micros ∧ t = ⟨micros⟩ := by
  have hdays : InCalendar micros ↔ -719162 ≤ micros / 86400000000 ∧ micros / 86400000000 < 2932897 := by
    unfold InCalendar
    omega
  rw [← Date.year_inRange_iff] at hdays
  unfold ofMicros date
  simp only
  split
  · -- the years 1 to 9999 are far from the limits of the clock
    next hclock =>
    refine ⟨nofun, fun h => ?_⟩
    unfold InCalendar at h
    omega
  · split
    · next hcalendar =>
      refine ⟨nofun, fun h => ?_⟩
      have hyears := hdays.1 h.1
      omega
    · split
      · next hyears => exact ⟨fun h => ⟨hdays.2 hyears, (Except.ok.inj h).symm⟩, fun h => congrArg _ h.2.symm⟩
      · next hyears => exact ⟨nofun, fun h => absurd (hdays.1 h.1) hyears⟩

/-- The microseconds that a number of seconds comes to, if it is finite. -/
def microsOf? : Binary64 → Option Int
  | .finite negative units _ =>
    some (Binary64.signed negative (units / Binary64.one * 1000000 + microsOfFraction (units % Binary64.one)))
  | .infinite _ | .nan => none

/-- **Which numbers of seconds give a timestamp**: the finite ones whose microseconds lie in the years 1 to 9999. -/
theorem ofSeconds_ok_iff {x : Binary64} {t : Timestamp} :
    ofSeconds x = .ok t ↔ ∃ micros, microsOf? x = some micros ∧ InCalendar micros ∧ t = ⟨micros⟩ := by
  cases x with
  | nan => exact ⟨nofun, nofun⟩
  | infinite negative => exact ⟨nofun, nofun⟩
  | finite negative units h =>
    show ofMicros _ = .ok t ↔ _
    rw [ofMicros_ok_iff]
    exact ⟨fun h => ⟨_, rfl, h⟩, fun ⟨micros, hmicros, h⟩ => Option.some.inj hmicros ▸ h⟩

/-- A number of seconds within the calendar. -/
def IsTime (x : Binary64) : Prop := ∃ micros, microsOf? x = some micros ∧ InCalendar micros

theorem exists_ofSeconds_ok_iff {x : Binary64} : (∃ t, ofSeconds x = .ok t) ↔ IsTime x := by
  constructor
  · rintro ⟨t, ht⟩
    obtain ⟨micros, hmicros, hcalendar, -⟩ := ofSeconds_ok_iff.1 ht
    exact ⟨micros, hmicros, hcalendar⟩
  · rintro ⟨micros, hmicros, hcalendar⟩
    exact ⟨⟨micros⟩, ofSeconds_ok_iff.2 ⟨micros, hmicros, hcalendar, rfl⟩⟩

end Timestamp

end LogAssay
