/-
Module: HelpdeskApi.Library.Calendar
Layer: Library
Purpose: Instants in milliseconds and their texts. A day number has a date in the Gregorian calendar, an
  instant has a date and a time of day, and a date and a time have a text of fixed width, with a sign and two
  more digits for the years that need them. Reading such a text gives the instant it was written for.
Trusted boundary: none
Main exports: Date, dateOf, dayOf, dayOf_dateOf, pad, digits?_pad, isoText, ofIsoText, ofIsoText_isoText
-/
import Mathlib.Data.Nat.Basic
import Mathlib.Data.Int.Basic
import Mathlib.Tactic.Linarith

namespace Calendar

section Days

/-- A date of the Gregorian calendar. -/
structure Date where
  year : Int
  month : Nat
  day : Nat
deriving DecidableEq

/-- The days from 1 March of year 0 to 1 March of a year. -/
def daysBeforeMarch (year : Int) : Int :=
  365 * year + year / 4 - year / 100 + year / 400

/-- The days from 1 March to the first of a month, which is counted from March. -/
def daysBeforeMonth (fromMarch : Int) : Int :=
  (153 * fromMarch + 2) / 5

/-- The day number of a date; the epoch is day 0. A day that its month does not have is one of the next. -/
def dayOf (date : Date) : Int :=
  let fromMarch : Int := (date.month + 9) % 12
  let year : Int := if date.month ≤ 2 then date.year - 1 else date.year
  daysBeforeMarch year + daysBeforeMonth fromMarch + date.day - 1 - 719468

/-- The year that starts in March and the day in it, counted from 0, of a day of a cycle of 400 years. -/
def yearOfCycle (n : Int) : Int × Int :=
  let century := min 3 (n / 36524)
  let inCentury := n - century * 36524
  let leap := inCentury / 1461
  let inLeap := inCentury % 1461
  let year := min 3 (inLeap / 365)
  (century * 100 + leap * 4 + year, inLeap - year * 365)

/-- The date of a day of a year that starts in March. -/
def dateIn (year dayOfYear : Int) : Date :=
  let fromMarch := (5 * dayOfYear + 2) / 153
  { year := if fromMarch < 10 then year else year + 1
    month := (if fromMarch < 10 then fromMarch + 3 else fromMarch - 9).toNat
    day := (dayOfYear - daysBeforeMonth fromMarch + 1).toNat }

/-- The date of a day number. -/
def dateOf (day : Int) : Date :=
  let sinceMarch := day + 719468
  let inCycle := yearOfCycle (sinceMarch % 146097)
  dateIn (sinceMarch / 146097 * 400 + inCycle.1) inCycle.2

/-- The year of a cycle with its leap days. -/
theorem daysBeforeMarch_parts {century leap year : Int} (leapBounds : 0 ≤ leap ∧ leap ≤ 24)
    (yearBounds : 0 ≤ year ∧ year ≤ 3) (centuryBounds : 0 ≤ century ∧ century ≤ 3) :
    daysBeforeMarch (century * 100 + leap * 4 + year) = century * 36524 + leap * 1461 + year * 365 := by
  unfold daysBeforeMarch
  have fours : (century * 100 + leap * 4 + year) / 4 = century * 25 + leap := by omega
  have hundreds : (century * 100 + leap * 4 + year) / 100 = century := by omega
  have cycles : (century * 100 + leap * 4 + year) / 400 = 0 := by omega
  omega

/-- A day of a cycle is so many days after the start of its year, which is a year of the cycle. -/
theorem yearOfCycle_spec {n : Int} (low : 0 ≤ n) (high : n < 146097) :
    daysBeforeMarch (yearOfCycle n).1 + (yearOfCycle n).2 = n ∧ 0 ≤ (yearOfCycle n).1 ∧ (yearOfCycle n).1 < 400 ∧
      0 ≤ (yearOfCycle n).2 ∧ (yearOfCycle n).2 ≤ 365 := by
  unfold yearOfCycle
  dsimp only
  have centuryBounds : 0 ≤ min 3 (n / 36524) ∧ min 3 (n / 36524) ≤ 3 := by omega
  have inCenturyBounds : 0 ≤ n - min 3 (n / 36524) * 36524 ∧ n - min 3 (n / 36524) * 36524 ≤ 36524 := by omega
  generalize min 3 (n / 36524) = century at *
  obtain ⟨inCentury, isInCentury⟩ : ∃ m, n - century * 36524 = m := ⟨_, rfl⟩
  rw [isInCentury] at inCenturyBounds ⊢
  have leapBounds : 0 ≤ inCentury / 1461 ∧ inCentury / 1461 ≤ 24 := by omega
  have inLeapBounds : 0 ≤ inCentury % 1461 ∧ inCentury % 1461 ≤ 1460 := by omega
  have parts := Int.mul_ediv_add_emod inCentury 1461
  generalize inCentury / 1461 = leap at *
  generalize inCentury % 1461 = inLeap at *
  have yearBounds : 0 ≤ min 3 (inLeap / 365) ∧ min 3 (inLeap / 365) ≤ 3 := by omega
  have dayBounds : 0 ≤ inLeap - min 3 (inLeap / 365) * 365 ∧ inLeap - min 3 (inLeap / 365) * 365 ≤ 365 := by omega
  generalize min 3 (inLeap / 365) = year at *
  rw [daysBeforeMarch_parts leapBounds yearBounds centuryBounds]
  omega

/-- Whole cycles before a year. -/
theorem daysBeforeMarch_add (era year : Int) :
    daysBeforeMarch (era * 400 + year) = era * 146097 + daysBeforeMarch year := by
  unfold daysBeforeMarch
  omega

/-- The month of a day of a year, and the day of the month. -/
theorem month_bounds {dayOfYear : Int} (low : 0 ≤ dayOfYear) (high : dayOfYear ≤ 365) :
    0 ≤ (5 * dayOfYear + 2) / 153 ∧ (5 * dayOfYear + 2) / 153 ≤ 11 ∧
      0 ≤ dayOfYear - daysBeforeMonth ((5 * dayOfYear + 2) / 153) ∧
      dayOfYear - daysBeforeMonth ((5 * dayOfYear + 2) / 153) ≤ 30 := by
  unfold daysBeforeMonth
  omega

theorem dayOf_dateIn {year dayOfYear : Int} (low : 0 ≤ dayOfYear) (high : dayOfYear ≤ 365) :
    dayOf (dateIn year dayOfYear) = daysBeforeMarch year + dayOfYear - 719468 := by
  obtain ⟨monthLow, monthHigh, dayLow, _⟩ := month_bounds low high
  unfold dayOf dateIn
  dsimp only
  generalize (5 * dayOfYear + 2) / 153 = fromMarch at *
  by_cases late : fromMarch < 10
  · have sameMonth : ((fromMarch + 3).toNat + 9 : Int) % 12 = fromMarch := by omega
    have notEarly : ¬(fromMarch + 3).toNat ≤ 2 := by omega
    simp only [if_pos late, if_neg notEarly, sameMonth]
    omega
  · have sameMonth : ((fromMarch - 9).toNat + 9 : Int) % 12 = fromMarch := by omega
    have early : (fromMarch - 9).toNat ≤ 2 := by omega
    simp only [if_neg late, if_pos early, sameMonth, add_sub_cancel_right]
    omega

/-- The date of a day number is a date of that day. -/
theorem dayOf_dateOf (day : Int) : dayOf (dateOf day) = day := by
  have low : 0 ≤ (day + 719468) % 146097 := Int.emod_nonneg _ (by decide)
  have high : (day + 719468) % 146097 < 146097 := Int.emod_lt_of_pos _ (by decide)
  have parts := Int.mul_ediv_add_emod (day + 719468) 146097
  obtain ⟨sum, _, _, dayLow, dayHigh⟩ := yearOfCycle_spec low high
  unfold dateOf
  dsimp only
  rw [dayOf_dateIn dayLow dayHigh, daysBeforeMarch_add]
  omega

/-- The months and the days of the dates of days. -/
theorem dateOf_bounds (day : Int) :
    1 ≤ (dateOf day).month ∧ (dateOf day).month ≤ 12 ∧ 1 ≤ (dateOf day).day ∧ (dateOf day).day ≤ 31 := by
  have low : 0 ≤ (day + 719468) % 146097 := Int.emod_nonneg _ (by decide)
  have high : (day + 719468) % 146097 < 146097 := Int.emod_lt_of_pos _ (by decide)
  obtain ⟨_, _, _, dayLow, dayHigh⟩ := yearOfCycle_spec low high
  obtain ⟨monthLow, monthHigh, restLow, restHigh⟩ := month_bounds dayLow dayHigh
  unfold dateOf dateIn
  dsimp only
  refine ⟨?_, ?_, ?_, ?_⟩
  · split <;> omega
  · split <;> omega
  · omega
  · omega

/-- The year of a date is one of its cycle of 400 years, or the next one. -/
theorem year_dateOf (day : Int) :
    (day + 719468) / 146097 * 400 ≤ (dateOf day).year ∧ (dateOf day).year ≤ (day + 719468) / 146097 * 400 + 400 := by
  have low : 0 ≤ (day + 719468) % 146097 := Int.emod_nonneg _ (by decide)
  have high : (day + 719468) % 146097 < 146097 := Int.emod_lt_of_pos _ (by decide)
  obtain ⟨_, yearLow, yearHigh, _, _⟩ := yearOfCycle_spec low high
  unfold dateOf dateIn
  dsimp only
  constructor
  · split <;> omega
  · split <;> omega

end Days

section Digits

/-- A decimal digit. -/
def digit (d : Nat) : Char :=
  .ofNat (48 + d)

def digit? (c : Char) : Option Nat :=
  if 48 ≤ c.toNat ∧ c.toNat ≤ 57 then some (c.toNat - 48) else none

theorem digit?_digit {d : Nat} (small : d < 10) : digit? (digit d) = some d := by
  have all : ∀ d < 10, digit? (digit d) = some d := by decide
  exact all d small

/-- The last `width` decimal digits of a number. -/
def pad : Nat → Nat → List Char
  | 0, _ => []
  | width + 1, n => digit (n / 10 ^ width % 10) :: pad width n

/-- Reads a number of so many digits. -/
def digits? : Nat → List Char → Option (Nat × List Char)
  | 0, cs => some (0, cs)
  | _ + 1, [] => none
  | width + 1, c :: cs => do
      let d ← digit? c
      let (n, rest) ← digits? width cs
      some (10 ^ width * d + n, rest)

theorem digits?_pad_mod (width n : Nat) (rest : List Char) :
    digits? width (pad width n ++ rest) = some (n % 10 ^ width, rest) := by
  induction width with
  | zero => simp [pad, digits?, Nat.mod_one]
  | succ width ih =>
      have head : digit? (digit (n / 10 ^ width % 10)) = some (n / 10 ^ width % 10) :=
        digit?_digit (Nat.mod_lt _ (by decide))
      simp only [pad, digits?, List.cons_append, head, ih, Option.bind_eq_bind, Option.bind_some]
      rw [Nat.mod_pow_succ, Nat.add_comm]

/-- The digits of a number that has no more of them read as the number. -/
theorem digits?_pad {width n : Nat} (fits : n < 10 ^ width) (rest : List Char) :
    digits? width (pad width n ++ rest) = some (n, rest) := by
  rw [digits?_pad_mod, Nat.mod_eq_of_lt fits]

/-- Reads one character. -/
def char? (c : Char) : List Char → Option (List Char)
  | [] => none
  | c' :: rest => if c' = c then some rest else none

@[simp] theorem char?_self (c : Char) (rest : List Char) : char? c (c :: rest) = some rest := by
  simp [char?]

/-- No digit is the sign of a number. -/
theorem char?_pad {c : Char} (sign : digit? c = none) (width n : Nat) (rest : List Char) :
    char? c (pad (width + 1) n ++ rest) = none := by
  have other : digit (n / 10 ^ width % 10) ≠ c := by
    rintro rfl
    rw [digit?_digit (Nat.mod_lt _ (by decide))] at sign
    cases sign
  simp [char?, pad, other]

end Digits

section Iso

/-- A year: four digits, or a sign and six. -/
def yearText (year : Int) : List Char :=
  if 0 ≤ year ∧ year ≤ 9999 then pad 4 year.toNat
  else (if year < 0 then '-' else '+') :: pad 6 year.natAbs

def year? (cs : List Char) : Option (Int × List Char) :=
  match char? '+' cs with
  | some rest => (digits? 6 rest).map fun read => ((read.1 : Int), read.2)
  | none =>
      match char? '-' cs with
      | some rest => (digits? 6 rest).bind fun read => if read.1 = 0 then none else some (-(read.1 : Int), read.2)
      | none => (digits? 4 cs).map fun read => ((read.1 : Int), read.2)

theorem year?_yearText {year : Int} (low : -1000000 < year) (high : year < 1000000) (rest : List Char) :
    year? (yearText year ++ rest) = some (year, rest) := by
  unfold yearText
  split
  · rename_i plain
    have fits : year.toNat < 10 ^ 4 := by omega
    have back : (year.toNat : Int) = year := by omega
    simp only [year?, char?_pad (c := '+') (by decide), char?_pad (c := '-') (by decide), digits?_pad fits,
      Option.map_some, back]
  · have fits : year.natAbs < 10 ^ 6 := by omega
    split
    · have back : -(year.natAbs : Int) = year := by omega
      have notZero : year.natAbs ≠ 0 := by omega
      have noPlus : char? '+' ('-' :: (pad 6 year.natAbs ++ rest)) = none := by simp [char?]
      simp only [year?, List.cons_append, noPlus, char?_self, digits?_pad fits, Option.bind_some, if_neg notZero, back]
    · have back : (year.natAbs : Int) = year := by omega
      simp [year?, char?, digits?_pad fits, back]

/-- The milliseconds of a day. -/
def dayLength : Int :=
  86400000

/-- `YYYY-MM-DDTHH:mm:ss.sssZ`. -/
def isoChars (t : Int) : List Char :=
  let date := dateOf (t / dayLength)
  let inDay := (t % dayLength).toNat
  yearText date.year ++ '-' :: pad 2 date.month ++ '-' :: pad 2 date.day ++ 'T' :: pad 2 (inDay / 3600000) ++
    ':' :: pad 2 (inDay / 60000 % 60) ++ ':' :: pad 2 (inDay / 1000 % 60) ++ '.' :: pad 3 (inDay % 1000) ++ ['Z']

/-- The instant of such a text. -/
def ofIsoChars (cs : List Char) : Option Int := do
  let (year, cs) ← year? cs
  let (month, cs) ← (char? '-' cs).bind (digits? 2)
  let (day, cs) ← (char? '-' cs).bind (digits? 2)
  let (hour, cs) ← (char? 'T' cs).bind (digits? 2)
  let (minute, cs) ← (char? ':' cs).bind (digits? 2)
  let (second, cs) ← (char? ':' cs).bind (digits? 2)
  let (milli, cs) ← (char? '.' cs).bind (digits? 3)
  let cs ← char? 'Z' cs
  if 1 ≤ month ∧ month ≤ 12 ∧ 1 ≤ day ∧ day ≤ 31 ∧ hour < 24 ∧ minute < 60 ∧ second < 60 ∧ cs = [] then
    some (dayOf ⟨year, month, day⟩ * dayLength + (((hour * 60 + minute) * 60 + second) * 1000 + milli : Nat))
  else none

/-- The instants that have a text: 100 million days before and after the epoch. -/
def InRange (t : Int) : Prop :=
  -8640000000000000 ≤ t ∧ t ≤ 8640000000000000

instance (t : Int) : Decidable (InRange t) :=
  inferInstanceAs (Decidable (_ ∧ _))

theorem year_of_inRange {t : Int} (valid : InRange t) :
    -1000000 < (dateOf (t / dayLength)).year ∧ (dateOf (t / dayLength)).year < 1000000 := by
  obtain ⟨low, high⟩ := valid
  have bounds := year_dateOf (t / dayLength)
  unfold dayLength at *
  omega

theorem ofIsoChars_isoChars {t : Int} (valid : InRange t) : ofIsoChars (isoChars t) = some t := by
  obtain ⟨yearLow, yearHigh⟩ := year_of_inRange valid
  obtain ⟨monthLow, monthHigh, dayLow, dayHigh⟩ := dateOf_bounds (t / dayLength)
  have sameDay := dayOf_dateOf (t / dayLength)
  have parts := Int.mul_ediv_add_emod t dayLength
  have inDayLow : 0 ≤ t % dayLength := Int.emod_nonneg _ (by decide)
  have inDayHigh : t % dayLength < 86400000 := Int.emod_lt_of_pos _ (by decide)
  obtain ⟨inDay, isInDay⟩ := Int.eq_ofNat_of_zero_le inDayLow
  rw [isInDay] at inDayHigh parts
  have hourFits : inDay / 3600000 < 10 ^ 2 := by omega
  have minuteFits : inDay / 60000 % 60 < 10 ^ 2 := by omega
  have secondFits : inDay / 1000 % 60 < 10 ^ 2 := by omega
  have milliFits : inDay % 1000 < 10 ^ 3 := by omega
  have monthFits : (dateOf (t / dayLength)).month < 10 ^ 2 := by omega
  have dayFits : (dateOf (t / dayLength)).day < 10 ^ 2 := by omega
  have wellFormed : 1 ≤ (dateOf (t / dayLength)).month ∧ (dateOf (t / dayLength)).month ≤ 12 ∧
      1 ≤ (dateOf (t / dayLength)).day ∧ (dateOf (t / dayLength)).day ≤ 31 ∧ inDay / 3600000 < 24 ∧
      inDay / 60000 % 60 < 60 ∧ inDay / 1000 % 60 < 60 := by omega
  have sameInDay : ((inDay / 3600000 * 60 + inDay / 60000 % 60) * 60 + inDay / 1000 % 60) * 1000 + inDay % 1000 =
      inDay := by omega
  simp only [isoChars, ofIsoChars, isInDay, Int.toNat_natCast, List.append_assoc, List.cons_append,
    year?_yearText yearLow yearHigh, Option.bind_eq_bind, Option.bind_some, char?_self, digits?_pad monthFits,
    digits?_pad dayFits, digits?_pad hourFits, digits?_pad minuteFits, digits?_pad secondFits,
    digits?_pad milliFits, sameDay, sameInDay]
  rw [if_pos]
  · rw [mul_comm, parts]
  · simpa only [and_true] using wellFormed

/-- `toISOString`. -/
def isoText (t : Int) : String :=
  .ofList (isoChars t)

/-- The instant of a text that `isoText` writes. -/
def ofIsoText (text : String) : Option Int :=
  ofIsoChars text.toList

/-- Writing an instant and reading it gives the instant. -/
theorem ofIsoText_isoText {t : Int} (valid : InRange t) : ofIsoText (isoText t) = some t := by
  rw [ofIsoText, isoText, String.toList_ofList]
  exact ofIsoChars_isoChars valid

example : isoText 1757505600123 = "2025-09-10T12:00:00.123Z" := by decide

example : ofIsoText "-271821-04-20T00:00:00.000Z" = some (-8640000000000000) := by decide

end Iso

end Calendar
