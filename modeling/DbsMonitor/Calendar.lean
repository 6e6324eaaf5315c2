import Mathlib.Tactic.Ring

/-!
# The calendar and its texts

Dates and times of day in UTC, counted in seconds from 1970 on, and their texts by a layout. A text
by a layout with the date and the time is read back to its instant, so texts of different instants
differ.
-/

namespace DbsMonitor.Calendar

structure Date where
  year : ℤ
  month : ℤ
  day : ℤ
  deriving DecidableEq, Repr

def IsLeap (year : ℤ) : Prop := year % 4 = 0 ∧ (year % 100 ≠ 0 ∨ year % 400 = 0)

instance (year : ℤ) : Decidable (IsLeap year) :=
  inferInstanceAs (Decidable (year % 4 = 0 ∧ (year % 100 ≠ 0 ∨ year % 400 = 0)))

def daysIn (month year : ℤ) : ℤ :=
  if month = 2 then if IsLeap year then 29 else 28
  else if month = 4 ∨ month = 6 ∨ month = 9 ∨ month = 11 then 30
  else 31

/-- A day by the years that begin in March: the leap day is the last of its year, four and four
hundred. -/
structure MarchDay where
  era : ℤ
  century : ℤ
  four : ℤ
  year : ℤ
  day : ℤ

namespace MarchDay

def ofDays (days : ℤ) : MarchDay :=
  let sinceMarch := days + 719468
  let inEra := sinceMarch % 146097
  let century := min (inEra / 36524) 3
  let inCentury := inEra - century * 36524
  let inFour := inCentury % 1461
  let year := min (inFour / 365) 3
  { era := sinceMarch / 146097, century := century, four := inCentury / 1461, year := year
    day := inFour - year * 365 }

structure Valid (d : MarchDay) : Prop where
  century_nonneg : 0 ≤ d.century
  century_le : d.century ≤ 3
  four_nonneg : 0 ≤ d.four
  four_le : d.four ≤ 24
  year_nonneg : 0 ≤ d.year
  year_le : d.year ≤ 3
  day_nonneg : 0 ≤ d.day
  day_le : d.day ≤ 365
  leap : d.day = 365 → d.year = 3 ∧ (d.four = 24 → d.century = 3)

theorem valid_ofDays (days : ℤ) : (ofDays days).Valid := by
  constructor <;> simp only [ofDays] <;> omega

theorem days_eq (days : ℤ) :
    (ofDays days).era * 146097 + (ofDays days).century * 36524 + (ofDays days).four * 1461
      + (ofDays days).year * 365 + (ofDays days).day = days + 719468 := by
  simp only [ofDays]
  omega

def marchYear (d : MarchDay) : ℤ := d.era * 400 + d.century * 100 + d.four * 4 + d.year

def month (d : MarchDay) : ℤ := (5 * d.day + 2) / 153

def date (d : MarchDay) : Date :=
  { year := if d.month < 10 then d.marchYear else d.marchYear + 1
    month := if d.month < 10 then d.month + 3 else d.month - 9
    day := d.day - (153 * d.month + 2) / 5 + 1 }

end MarchDay

def Date.ofDays (days : ℤ) : Date := (MarchDay.ofDays days).date

def Date.toDays (date : Date) : ℤ :=
  let year := if 2 < date.month then date.year else date.year - 1
  let month := if 2 < date.month then date.month - 3 else date.month + 9
  year * 365 + year / 4 - year / 100 + year / 400 + (153 * month + 2) / 5 + date.day - 1 - 719468

theorem MarchDay.toDays_date {d : MarchDay} (h : d.Valid) :
    d.date.toDays = d.era * 146097 + d.century * 36524 + d.four * 1461 + d.year * 365 + d.day
      - 719468 := by
  obtain ⟨_, _, _, _, _, _, _, _, -⟩ := h
  have hmonth : 0 ≤ d.month ∧ d.month ≤ 11 := by
    unfold month
    omega
  have hfours : d.marchYear / 4 = d.era * 100 + d.century * 25 + d.four := by
    unfold marchYear
    omega
  have hcenturies : d.marchYear / 100 = d.era * 4 + d.century := by
    unfold marchYear
    omega
  have heras : d.marchYear / 400 = d.era := by
    unfold marchYear
    omega
  have hyear : (if 2 < d.date.month then d.date.year else d.date.year - 1) = d.marchYear := by
    simp only [date]
    split_ifs <;> omega
  have hback : (if 2 < d.date.month then d.date.month - 3 else d.date.month + 9) = d.month := by
    simp only [date]
    split_ifs <;> omega
  simp only [Date.toDays, hyear, hback, hfours, hcenturies, heras]
  simp only [date, marchYear]
  omega

theorem Date.toDays_ofDays (days : ℤ) : (ofDays days).toDays = days := by
  rw [ofDays, MarchDay.toDays_date (MarchDay.valid_ofDays days), MarchDay.days_eq]
  omega

structure Date.Valid (date : Date) : Prop where
  month_pos : 1 ≤ date.month
  month_le : date.month ≤ 12
  day_pos : 1 ≤ date.day
  day_le : date.day ≤ daysIn date.month date.year

theorem MarchDay.valid_date {d : MarchDay} (h : d.Valid) : d.date.Valid := by
  obtain ⟨_, _, _, _, _, _, _, _, hleap⟩ := h
  have hmonth : 153 * d.month ≤ 5 * d.day + 2 ∧ 5 * d.day + 2 < 153 * d.month + 153 := by
    unfold month
    omega
  have hlast : d.day = 365 → IsLeap (d.marchYear + 1) := by
    intro hday
    obtain ⟨hyear, hfour⟩ := hleap hday
    unfold IsLeap marchYear
    omega
  refine ⟨?_, ?_, ?_, ?_⟩ <;> simp only [date]
  · split_ifs <;> omega
  · split_ifs <;> omega
  · omega
  · by_cases hspring : d.month < 10
    · simp only [if_pos hspring, daysIn]
      split_ifs <;> omega
    · simp only [if_neg hspring, daysIn]
      split_ifs with hfebruary hleapYear
      · omega
      · have hday : d.day ≠ 365 := fun h => hleapYear (hlast h)
        omega
      · omega
      · omega

theorem Date.valid_ofDays (days : ℤ) : (ofDays days).Valid :=
  MarchDay.valid_date (MarchDay.valid_ofDays days)

/-- Four digits are enough for a year of the next seven thousand. -/
theorem Date.year_ofDays {days : ℤ} (h : 0 ≤ days) (h' : days < 2900000) :
    0 ≤ (ofDays days).year ∧ (ofDays days).year < 10000 := by
  have hdays := MarchDay.days_eq days
  obtain ⟨_, _, _, _, _, _, _, _, -⟩ := MarchDay.valid_ofDays days
  simp only [ofDays, MarchDay.date, MarchDay.marchYear]
  split_ifs <;> omega

example : (Date.ofDays 0, Date.ofDays 11016, Date.ofDays 47540)
    = (⟨1970, 1, 1⟩, ⟨2000, 2, 29⟩, ⟨2100, 2, 28⟩) := by decide

structure Time where
  date : Date
  hour : ℤ
  minute : ℤ
  second : ℤ
  deriving DecidableEq, Repr

def Time.ofSeconds (seconds : ℤ) : Time :=
  { date := Date.ofDays (seconds / 86400)
    hour := seconds % 86400 / 3600
    minute := seconds % 3600 / 60
    second := seconds % 60 }

def Time.toSeconds (time : Time) : ℤ :=
  time.date.toDays * 86400 + time.hour * 3600 + time.minute * 60 + time.second

theorem Time.toSeconds_ofSeconds (seconds : ℤ) : (ofSeconds seconds).toSeconds = seconds := by
  simp only [toSeconds, ofSeconds, Date.toDays_ofDays]
  omega

def zeroPad : (width n : ℕ) → List Char
  | 0, n => if n = 0 then [] else Nat.toDigits 10 n
  | width + 1, n => zeroPad width (n / 10) ++ [Nat.digitChar (n % 10)]

def value (digits : List Char) : ℕ := digits.foldl (fun n c => n * 10 + (c.toNat - '0'.toNat)) 0

def readDigits (width : ℕ) (text : List Char) : Option (ℕ × List Char) :=
  let digits := text.take width
  if digits.length = width ∧ digits.all Char.isDigit then some (value digits, text.drop width)
  else none

theorem isDigit_digitChar : ∀ d < 10, (Nat.digitChar d).isDigit = true := by decide

theorem toNat_digitChar : ∀ d < 10, (Nat.digitChar d).toNat - '0'.toNat = d := by decide

theorem zeroPad_spec {width n : ℕ} (h : n < 10 ^ width) :
    (zeroPad width n).length = width ∧ (zeroPad width n).all Char.isDigit = true
      ∧ value (zeroPad width n) = n := by
  induction width generalizing n with
  | zero =>
    obtain rfl : n = 0 := by simpa using h
    exact ⟨rfl, rfl, rfl⟩
  | succ width ih =>
    obtain ⟨hlength, hdigits, hvalue⟩ := ih (n := n / 10) (by
      rw [pow_succ] at h
      omega)
    have hmod := Nat.mod_lt n (y := 10) (by decide)
    refine ⟨?_, ?_, ?_⟩
    · simp [zeroPad, hlength]
    · simp only [zeroPad, List.all_append, hdigits, List.all_cons, isDigit_digitChar _ hmod,
        List.all_nil, Bool.and_self]
    · unfold value at hvalue ⊢
      rw [zeroPad, List.foldl_append, hvalue, List.foldl_cons, List.foldl_nil,
        toNat_digitChar _ hmod]
      omega

theorem readDigits_zeroPad {width n : ℕ} (h : n < 10 ^ width) (rest : List Char) :
    readDigits width (zeroPad width n ++ rest) = some (n, rest) := by
  obtain ⟨hlength, hdigits, hvalue⟩ := zeroPad_spec h
  rw [readDigits, List.take_left' hlength, List.drop_left' hlength, if_pos ⟨hlength, hdigits⟩,
    hvalue]

inductive Verb
  | year
  | month
  | day
  | hour
  | minute
  | second
  | literal (c : Char)
  deriving DecidableEq, Repr

def Verb.format (time : Time) : Verb → List Char
  | .year => zeroPad 4 time.date.year.toNat
  | .month => zeroPad 2 time.date.month.toNat
  | .day => zeroPad 2 time.date.day.toNat
  | .hour => zeroPad 2 time.hour.toNat
  | .minute => zeroPad 2 time.minute.toNat
  | .second => zeroPad 2 time.second.toNat
  | .literal c => [c]

def format (layout : List Verb) (time : Time) : List Char := layout.flatMap (Verb.format time)

def readNumber (width : ℕ) (low high : ℤ) (text : List Char) : Option (ℤ × List Char) :=
  (readDigits width text).bind fun (n, rest) =>
    if low ≤ n ∧ (n : ℤ) ≤ high then some (n, rest) else none

/-- A field of the time, read off the front of the text. The day is checked when all are read. -/
def Verb.read (time : Time) (text : List Char) : Verb → Option (Time × List Char)
  | .year => (readNumber 4 0 9999 text).map fun (n, rest) =>
    ({ time with date.year := n }, rest)
  | .month => (readNumber 2 1 12 text).map fun (n, rest) =>
    ({ time with date.month := n }, rest)
  | .day => (readNumber 2 0 99 text).map fun (n, rest) => ({ time with date.day := n }, rest)
  | .hour => (readNumber 2 0 23 text).map fun (n, rest) => ({ time with hour := n }, rest)
  | .minute => (readNumber 2 0 59 text).map fun (n, rest) => ({ time with minute := n }, rest)
  | .second => (readNumber 2 0 59 text).map fun (n, rest) => ({ time with second := n }, rest)
  | .literal c =>
    match text with
    | c' :: rest => if c' = c then some (time, rest) else none
    | [] => none

def readAll (time : Time) (text : List Char) : List Verb → Option (Time × List Char)
  | [] => some (time, text)
  | verb :: layout => (verb.read time text).bind fun (time, rest) => readAll time rest layout

def parse (layout : List Verb) (text : List Char) : Option ℤ :=
  match readAll ⟨⟨0, 1, 1⟩, 0, 0, 0⟩ text layout with
  | some (time, []) =>
    if 1 ≤ time.date.day ∧ time.date.day ≤ daysIn time.date.month time.date.year then
      some time.toSeconds
    else none
  | _ => none

structure Time.InRange (time : Time) : Prop where
  year_nonneg : 0 ≤ time.date.year
  year_lt : time.date.year < 10000
  date : time.date.Valid
  hour_nonneg : 0 ≤ time.hour
  hour_lt : time.hour < 24
  minute_nonneg : 0 ≤ time.minute
  minute_lt : time.minute < 60
  second_nonneg : 0 ≤ time.second
  second_lt : time.second < 60

theorem Time.inRange_ofSeconds {seconds : ℤ} (h : 0 ≤ seconds) (h' : seconds < 2900000 * 86400) :
    (ofSeconds seconds).InRange := by
  have hdays : 0 ≤ seconds / 86400 ∧ seconds / 86400 < 2900000 := by omega
  obtain ⟨hyear, hyear'⟩ := Date.year_ofDays hdays.1 hdays.2
  refine ⟨hyear, hyear', Date.valid_ofDays _, ?_, ?_, ?_, ?_, ?_, ?_⟩
  all_goals
    simp only [ofSeconds]
    omega

theorem daysIn_le (month year : ℤ) : daysIn month year ≤ 31 := by
  unfold daysIn
  split_ifs <;> decide

theorem readNumber_zeroPad {width : ℕ} {low high n : ℤ} (hnonneg : 0 ≤ n) (hlow : low ≤ n)
    (hhigh : n ≤ high) (hwidth : n < 10 ^ width) (rest : List Char) :
    readNumber width low high (zeroPad width n.toNat ++ rest) = some (n, rest) := by
  lift n to ℕ using hnonneg
  rw [readNumber, Int.toNat_natCast, readDigits_zeroPad (by exact_mod_cast hwidth),
    Option.bind_some]
  exact if_pos ⟨hlow, hhigh⟩

def Verb.copy (source time : Time) : Verb → Time
  | .year => { time with date.year := source.date.year }
  | .month => { time with date.month := source.date.month }
  | .day => { time with date.day := source.date.day }
  | .hour => { time with hour := source.hour }
  | .minute => { time with minute := source.minute }
  | .second => { time with second := source.second }
  | .literal _ => time

theorem Verb.read_format {source : Time} (h : source.InRange) (time : Time) (rest : List Char)
    (verb : Verb) :
    verb.read time (verb.format source ++ rest) = some (verb.copy source time, rest) := by
  obtain ⟨_, _, ⟨_, _, _, hday⟩, _, _, _, _, _, _⟩ := h
  have hday' := hday.trans (daysIn_le _ _)
  cases verb with
  | literal c => simp [read, format, copy]
  | year | month | day | hour | minute | second =>
    rw [read, format, readNumber_zeroPad (by omega) (by omega) (by omega) (by omega)]
    rfl

theorem readAll_format {source : Time} (h : source.InRange) (layout : List Verb) (time : Time)
    (rest : List Char) :
    readAll time (format layout source ++ rest) layout
      = some (layout.foldl (Verb.copy source) time, rest) := by
  induction layout generalizing time with
  | nil => rfl
  | cons verb layout ih =>
    rw [format, List.flatMap_cons, List.append_assoc, readAll, Verb.read_format h,
      Option.bind_some]
    exact ih (verb.copy source time)

/-- A layout does not read a text that goes on. -/
theorem parse_format_append {source : Time} (h : source.InRange) (layout : List Verb) (c : Char)
    (rest : List Char) : parse layout (format layout source ++ c :: rest) = none := by
  rw [parse, readAll_format h]

/-- A text is read back to its instant when the layout has all that is not zero in it. -/
theorem parse_format {layout : List Verb} {seconds : ℤ} (h : 0 ≤ seconds)
    (h' : seconds < 2900000 * 86400)
    (hlayout : layout.foldl (Verb.copy (Time.ofSeconds seconds)) ⟨⟨0, 1, 1⟩, 0, 0, 0⟩
      = Time.ofSeconds seconds) :
    parse layout (format layout (Time.ofSeconds seconds)) = some seconds := by
  have hrange := Time.inRange_ofSeconds h h'
  have hread := readAll_format hrange layout ⟨⟨0, 1, 1⟩, 0, 0, 0⟩ []
  rw [List.append_nil] at hread
  rw [parse, hread, hlayout]
  simp only [hrange.date.day_pos, hrange.date.day_le, and_self, if_true,
    Time.toSeconds_ofSeconds]

end DbsMonitor.Calendar
