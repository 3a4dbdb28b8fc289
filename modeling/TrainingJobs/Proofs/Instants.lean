/-
Instants, written and read.

A day has a date, and the date leads back to the day (`Date.toDays_ofDays`). Both ways go through four hundred years
that start in March, whatever year they start in: a day has a place in them (`Place`), and the rule by which its
year is found is right because of where the leap days stand among the places. From this and from numerals of a
fixed width it follows that an instant of the years 0 to 9999 which is written and read is the start of its second
(`Timestamp.parse?_render`).
-/
import Mathlib.Tactic.IntervalCases
import TrainingJobs.Proofs.Names
import TrainingJobs.Time.Rfc3339

set_option autoImplicit false

namespace TrainingJobs.Calendar

/-- Where a day stands in four hundred years that start in March: the century, the cycle of four years in the
century, the year in the cycle, and the day in the year. A year has a 366th day if it is the last of a cycle, and if
it also ends a century, only if that is the last. -/
structure Place where
  century : Int
  cycle : Int
  year : Int
  day : Int
  hcentury : 0 ≤ century ∧ century ≤ 3
  hcycle : 0 ≤ cycle ∧ cycle ≤ 24
  hyear : 0 ≤ year ∧ year ≤ 3
  hday : 0 ≤ day ∧ day ≤ 365
  hleap : day = 365 → year = 3 ∧ (cycle = 24 → century = 3)

namespace Place

def dayOfEra (p : Place) : Int := 36524 * p.century + 1461 * p.cycle + 365 * p.year + p.day

def yearOfEra (p : Place) : Int := 100 * p.century + 4 * p.cycle + p.year

/-- The days of an era are those from 0 to 146096. -/
theorem dayOfEra_bounds (p : Place) : 0 ≤ p.dayOfEra ∧ p.dayOfEra < 146097 := by
  obtain ⟨c, q, z, d, hc, hq, hz, hd, hl⟩ := p
  simp only [dayOfEra]
  omega

/-- And each of them has its place in it. -/
theorem exists_dayOfEra {n : Int} (h0 : 0 ≤ n) (h1 : n < 146097) : ∃ p : Place, p.dayOfEra = n := by
  obtain ⟨c, r, hc, hr, rfl⟩ : ∃ c r, (0 ≤ c ∧ c ≤ 3) ∧ (0 ≤ r ∧ (r < 36524 ∨ r = 36524 ∧ c = 3)) ∧
      36524 * c + r = n := ⟨min (n / 36524) 3, n - 36524 * min (n / 36524) 3, by omega⟩
  obtain ⟨z, d, hz, hd, hs⟩ : ∃ z d, (0 ≤ z ∧ z ≤ 3) ∧ (0 ≤ d ∧ (d < 365 ∨ d = 365 ∧ z = 3)) ∧
      365 * z + d = r % 1461 := ⟨min (r % 1461 / 365) 3, r % 1461 - 365 * min (r % 1461 / 365) 3, by omega⟩
  refine ⟨⟨c, r / 1461, z, d, hc, by omega, hz, by omega, by omega⟩, ?_⟩
  simp only [dayOfEra]
  omega

/-- The formula for the year takes the leap days out that came before, and finds the year of the place. -/
theorem yearOfEra_eq (p : Place) : (p.dayOfEra - p.dayOfEra / 1460 + p.dayOfEra / 36524 - p.dayOfEra / 146096) / 365 =
    p.yearOfEra := by
  obtain ⟨c, q, z, d, hc, hq, hz, hd, hl⟩ := p
  simp only [dayOfEra, yearOfEra]
  generalize hn : 36524 * c + 1461 * q + 365 * z + d = n
  -- The last day of the era is in no century of 36524 days: `omega` needs it apart.
  have h1 : n / 36524 = c + n / 146096 := by
    by_cases hlast : d = 365 ∧ q = 24
    · have hn' : n = 146096 := by omega
      subst hn'
      omega
    · have hr : 1461 * q + 365 * z + d < 36524 := by omega
      have h0 : n / 146096 = 0 := by omega
      have hc' : n / 36524 = c := by omega
      omega
  have h2 : n / 1460 = 25 * c + q + (24 * c + q + 365 * z + d) / 1460 := by omega
  omega

/-- The days of the years before, of which a leap year has one more than others. -/
theorem daysBefore_eq (p : Place) : 365 * p.yearOfEra + p.yearOfEra / 4 - p.yearOfEra / 100 + p.day = p.dayOfEra := by
  obtain ⟨c, q, z, d, hc, hq, hz, hd, hl⟩ := p
  simp only [dayOfEra, yearOfEra]
  have h4 : (100 * c + 4 * q + z) / 4 = 25 * c + q := by omega
  have h100 : (100 * c + 4 * q + z) / 100 = c := by omega
  omega

/-- The date of a place, in the given four hundred years. -/
def date (p : Place) (era : Int) : Date :=
  let month := (5 * p.day + 2) / 153
  let day := p.day - (153 * month + 2) / 5 + 1
  let year := p.yearOfEra + era * 400
  if month < 10 then ⟨year, (month + 3).toNat, day.toNat⟩ else ⟨year + 1, (month - 9).toNat, day.toNat⟩

/-- So a day is read as the date of its place. -/
theorem ofDays_eq (p : Place) (era : Int) : Date.ofDays (era * 146097 + p.dayOfEra - 719468) = p.date era := by
  -- `fdiv` and `ediv` agree for a positive divisor, and `omega` knows only the second.
  have hera : (era * 146097 + p.dayOfEra).fdiv 146097 = era := by
    rw [Int.fdiv_eq_ediv_of_nonneg _ (by decide)]
    have := p.dayOfEra_bounds
    omega
  have hday : era * 146097 + p.dayOfEra - era * 146097 = p.dayOfEra := by omega
  have hofYear : p.dayOfEra - (365 * p.yearOfEra + p.yearOfEra / 4 - p.yearOfEra / 100) = p.day := by
    have := p.daysBefore_eq
    omega
  unfold Date.ofDays
  simp only [Int.sub_add_cancel, hera, hday, p.yearOfEra_eq, hofYear]
  rfl

/-- Every day has a place in an era, and its date is that of the place. -/
theorem exists_ofDays (days : Int) : ∃ (p : Place) (era : Int), days = era * 146097 + p.dayOfEra - 719468 ∧
    Date.ofDays days = p.date era := by
  obtain ⟨p, hp⟩ := exists_dayOfEra (n := (days + 719468) % 146097) (by omega) (by omega)
  have hdays : days = (days + 719468) / 146097 * 146097 + p.dayOfEra - 719468 := by omega
  have hdate := p.ofDays_eq ((days + 719468) / 146097)
  rw [← hdays] at hdate
  exact ⟨p, _, hdays, hdate⟩

theorem yearOfEra_bounds (p : Place) : 0 ≤ p.yearOfEra ∧ p.yearOfEra < 400 := by
  obtain ⟨c, q, z, d, hc, hq, hz, hd, hl⟩ := p
  simp only [yearOfEra]
  omega

/-- The other way round, the date of a place gives back its day. -/
theorem toDays_date (p : Place) (era : Int) : (p.date era).toDays = era * 146097 + p.dayOfEra - 719468 := by
  have hyear := p.yearOfEra_bounds
  have hera : (p.yearOfEra + era * 400).fdiv 400 = era := by
    rw [Int.fdiv_eq_ediv_of_nonneg _ (by decide)]
    omega
  have hofEra : p.yearOfEra + era * 400 - era * 400 = p.yearOfEra := by omega
  have hdays := p.daysBefore_eq
  have hday := p.hday
  obtain ⟨month, hmonth⟩ : ∃ month, month = (5 * p.day + 2) / 153 := ⟨_, rfl⟩
  have hcast : ((p.day - (153 * month + 2) / 5 + 1).toNat : Int) = p.day - (153 * month + 2) / 5 + 1 :=
    Int.toNat_of_nonneg (by omega)
  unfold date Date.toDays
  simp only [← hmonth]
  -- The year of a date starts in January, and that of a place in March.
  split
  · have hshort : ¬ (month + 3).toNat ≤ 2 := by omega
    have hmonth' : ((month + 3).toNat : Int) - 3 = month := by omega
    simp only [if_neg hshort, hmonth', hera, hofEra, hcast]
    omega
  · have hshort : (month - 9).toNat ≤ 2 := by omega
    have hmonth' : ((month - 9).toNat : Int) + 9 = month := by omega
    have hyear' : p.yearOfEra + era * 400 + 1 - 1 = p.yearOfEra + era * 400 := by omega
    simp only [if_pos hshort, hmonth', hyear', hera, hofEra, hcast]
    omega

/-- The year whose February is the last month of this one has a leap day where there is a 366th day. -/
theorem isLeap_of_day {p : Place} (h : p.day = 365) (era : Int) : isLeap (p.yearOfEra + era * 400 + 1) = true := by
  obtain ⟨hyear, hcycle⟩ := p.hleap h
  obtain ⟨c, q, z, d, hc, hq, hz, hd, hl⟩ := p
  simp only at hyear hcycle
  subst hyear
  simp only [isLeap, yearOfEra, Bool.and_eq_true, Bool.or_eq_true, beq_iff_eq, bne_iff_ne]
  omega

/-- From March to December, the days up to a month are counted in one go. -/
theorem daysInMonth_eq (year : Int) {month : Int} (h0 : 0 ≤ month) (h9 : month ≤ 9) :
    (daysInMonth year (month + 3).toNat : Int) = (153 * (month + 1) + 2) / 5 - (153 * month + 2) / 5 := by
  interval_cases month <;> rfl

/-- The date of a place is in the calendar. -/
theorem valid_date (p : Place) (era : Int) : (p.date era).valid = true := by
  have hday := p.hday
  obtain ⟨month, hmonth⟩ : ∃ month, month = (5 * p.day + 2) / 153 := ⟨_, rfl⟩
  have hrange : 0 ≤ month ∧ month ≤ 11 := by omega
  have hfirst : 1 ≤ (p.day - (153 * month + 2) / 5 + 1).toNat := by omega
  unfold date Date.valid
  simp only [← hmonth, Bool.and_eq_true, decide_eq_true_eq]
  split
  · have hlength := daysInMonth_eq (p.yearOfEra + era * 400) hrange.1 (by omega)
    dsimp only
    exact ⟨⟨⟨by omega, by omega⟩, hfirst⟩, by omega⟩
  · dsimp only
    refine ⟨⟨⟨by omega, by omega⟩, hfirst⟩, ?_⟩
    obtain rfl | rfl : month = 10 ∨ month = 11 := by omega
    · change (p.day - 306 + 1).toNat ≤ 31
      omega
    · -- Only February is of another length in a leap year.
      change (p.day - 337 + 1).toNat ≤ if isLeap (p.yearOfEra + era * 400 + 1) then 29 else 28
      by_cases hleap : p.day = 365
      · rw [if_pos (isLeap_of_day hleap era), hleap]
        decide
      · split <;> omega

end Place

/-- **A day has a date, and it is the only day of that date.** -/
theorem Date.toDays_ofDays (days : Int) : (Date.ofDays days).toDays = days ∧ (Date.ofDays days).valid = true := by
  obtain ⟨p, era, hdays, hdate⟩ := Place.exists_ofDays days
  rw [hdate, p.toDays_date, p.valid_date]
  exact ⟨hdays.symm, rfl⟩

end TrainingJobs.Calendar

namespace TrainingJobs

open Text

namespace Timestamp

open Calendar

/-! ## Text -/

/-- A padded number is written with zeros in front of its digits. -/
theorem toList_padded (width n : Nat) : (padded width n).toList =
    List.replicate (width - (Nat.toDigits 10 n).length) '0' ++ Nat.toDigits 10 n := by
  rw [padded, String.toList_ofList]

/-- A number that fits the width is read back from its numeral. -/
theorem readFixed?_padded {width n : Nat} (hwidth : 0 < width) (h : n < 10 ^ width) (rest : List Char) :
    readFixed? width ((padded width n).toList ++ rest) = some (n, rest) := by
  have hlength : (padded width n).toList.length = width := by
    have hdigits : (Nat.toDigits 10 n).length ≤ width := (Nat.length_toDigits_le_iff (by decide) hwidth).2 h
    rw [toList_padded, List.length_append, List.length_replicate]
    omega
  have hdigits : ∀ c ∈ (padded width n).toList, c.isDigit = true := by
    intro c hc
    rw [toList_padded] at hc
    rcases List.mem_append.1 hc with hc | hc
    · rw [(List.mem_replicate.1 hc).2]
      rfl
    · exact Nat.isDigit_of_mem_toDigits (by decide) (by decide) hc
  -- Leading zeros add nothing to the number read.
  have hread : readDigits? 0 (padded width n).toList = some n := by
    rw [readDigits?_of_digits hdigits, toList_padded, Nat.ofDigitChars_append, Nat.ofDigitChars_replicate_zero,
      Nat.mul_zero, Nat.ofDigitChars_ten_toDigits]
  unfold readFixed?
  simp only
  rw [List.take_left' hlength, List.drop_left' hlength, if_pos hlength, hread]
  rfl

/-- A date of four digits is read back from what is written of it, whatever follows. -/
theorem readDate?_written {d : Date} (hvalid : d.valid = true) (h0 : 0 ≤ d.year) (h9 : d.year ≤ 9999)
    (rest : List Char) : readDate? ((renderYear d.year).toList ++ '-' :: ((padded 2 d.month).toList ++
      '-' :: ((padded 2 d.day).toList ++ rest))) = some (d, rest) := by
  have hyear : renderYear d.year = padded 4 d.year.toNat := if_pos ⟨h0, h9⟩
  have hdate : (⟨(d.year.toNat : Int), d.month, d.day⟩ : Date) = d := by
    rw [Int.toNat_of_nonneg h0]
  have hrange := hvalid
  simp only [Date.valid, Bool.and_eq_true, decide_eq_true_eq] at hrange
  have hday : d.day ≤ 31 := by
    refine hrange.2.trans ?_
    unfold daysInMonth
    split
    · split <;> decide
    · split <;> decide
  have hdash : ∀ rest, readOneOf? ['-'] ('-' :: rest) = some ('-', rest) := fun _ => rfl
  -- Year, month and day in turn, each read up to its dash.
  unfold readDate?
  rw [hyear, readFixed?_padded (by decide) (by omega)]
  simp only [Option.bind_eq_bind, Option.bind_some, hdash]
  rw [readFixed?_padded (by decide) (by omega)]
  simp only [Option.bind_some, hdash]
  rw [readFixed?_padded (by decide) (by omega)]
  simp only [Option.bind_some, hdate, hvalid, if_true]

/-- And so is a time of day. -/
theorem readTimeOfDay?_written {n : Nat} (h : n < 86400) (rest : List Char) :
    readTimeOfDay? ((padded 2 (n / 3600)).toList ++ ':' :: ((padded 2 (n / 60 % 60)).toList ++
      ':' :: ((padded 2 (n % 60)).toList ++ rest))) = some (n, rest) := by
  have hcolon : ∀ rest, readOneOf? [':'] (':' :: rest) = some (':', rest) := fun _ => rfl
  unfold readTimeOfDay?
  rw [readFixed?_padded (by decide) (by omega)]
  simp only [Option.bind_eq_bind, Option.bind_some, hcolon]
  rw [readFixed?_padded (by decide) (by omega)]
  simp only [Option.bind_some, hcolon]
  rw [readFixed?_padded (by decide) (by omega)]
  simp only [Option.bind_some]
  rw [if_pos (by omega)]
  -- Hours, minutes and seconds make up the second of the day again.
  exact congrArg some (Prod.ext (by simp only; omega) rfl)

/-- The instant lies in a year that is written with four digits. -/
def FourDigitYear (t : Timestamp) : Prop :=
  0 ≤ (Date.ofDays (t.epochSecond.fdiv 86400)).year ∧ (Date.ofDays (t.epochSecond.fdiv 86400)).year ≤ 9999

instance (t : Timestamp) : Decidable t.FourDigitYear := inferInstanceAs (Decidable (_ ∧ _))

/-- **An instant that is written and read is the start of its second.** -/
theorem parse?_render {t : Timestamp} (h : t.FourDigitYear) : parse? t.render = some t.cutToSecond := by
  obtain ⟨h0, h9⟩ := h
  obtain ⟨hdays, hvalid⟩ := Date.toDays_ofDays (t.epochSecond.fdiv 86400)
  have hrange : 0 ≤ t.epochSecond.fmod 86400 ∧ t.epochSecond.fmod 86400 < 86400 :=
    ⟨Int.fmod_nonneg_of_pos _ (by decide), Int.fmod_lt_of_pos _ (by decide)⟩
  have hofDay : (t.epochSecond.fmod 86400).toNat < 86400 := by omega
  -- The whole text as its parts, so that each reader meets the part it reads.
  have htext : t.render.toList = (renderYear (Date.ofDays (t.epochSecond.fdiv 86400)).year).toList ++
      '-' :: ((padded 2 (Date.ofDays (t.epochSecond.fdiv 86400)).month).toList ++
      '-' :: ((padded 2 (Date.ofDays (t.epochSecond.fdiv 86400)).day).toList ++
      'T' :: ((padded 2 ((t.epochSecond.fmod 86400).toNat / 3600)).toList ++
      ':' :: ((padded 2 ((t.epochSecond.fmod 86400).toNat / 60 % 60)).toList ++
      ':' :: ((padded 2 ((t.epochSecond.fmod 86400).toNat % 60)).toList ++ ['Z']))))) := by
    simp [render, String.toList_append]
  have hseparator : ∀ rest, readOneOf? ['T', 't', ' '] ('T' :: rest) = some ('T', rest) := fun _ => rfl
  have hfraction : readFraction? ['Z'] = some (0, ['Z']) := rfl
  have hzone : readZone? ['Z'] = some (0, []) := rfl
  unfold parse?
  rw [htext, readDate?_written hvalid h0 h9]
  simp only [Option.bind_eq_bind, Option.bind_some, hseparator]
  rw [readTimeOfDay?_written hofDay]
  simp only [Option.bind_some, hfraction, hzone, List.isEmpty_nil, if_true]
  rw [hdays]
  have hsecond : t.epochSecond.fdiv 86400 * 86400 + ((t.epochSecond.fmod 86400).toNat : Int) = t.epochSecond := by
    rw [Int.toNat_of_nonneg hrange.1, Int.mul_comm]
    exact Int.mul_fdiv_add_fmod _ _
  rw [hsecond]
  exact congrArg (fun n : Int => some (⟨n⟩ : Timestamp)) (by simp)

end Timestamp

end TrainingJobs
