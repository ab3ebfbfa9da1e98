import LocaleClock.Formatter.Formatting
import LocaleClock.Proofs.Calendar.Moments
import LocaleClock.Proofs.Calendar.Offsets

/-! The fixed form loses nothing but the fraction of a second. Its three fields are read back as a
date of the calendar, a time of day and the offset, and together they number the second that was
shown. -/

namespace LocaleClock

open Text

/-! ### Reading the fixed form -/

structure CivilTime where
  date : Date
  hour : Nat
  minute : Nat
  second : Nat
  offset : Offset
  deriving DecidableEq

namespace CivilTime

/-- Cuts off the sign in front of a number. Holds first when the number is negative. -/
def cutSign : List Char → Bool × List Char
  | '-' :: cs => (true, cs)
  | '+' :: cs => (false, cs)
  | cs => (false, cs)

def date? (cs : List Char) : Option Date :=
  let (negative, unsigned) := cutSign cs
  match unsigned.splitOn '-' with
  | [year, month, day] => do
    let year ← number? year
    let month ← number? month
    let day ← number? day
    return ⟨if negative then -year else year, month, day⟩
  | _ => none

def time? (cs : List Char) : Option (Nat × Nat × Nat) :=
  match cs.splitOn ':' with
  | [hour, minute, second] => do
    return (← number? hour, ← number? minute, ← number? second)
  | _ => none

/-- Reads a date, a time of day and an offset with one blank between them. -/
def read? (cs : List Char) : Option CivilTime :=
  match cs.splitOn ' ' with
  | [date, time, zone] => do
    let date ← date? date
    let (hour, minute, second) ← time? time
    let offset ← Offset.parse? (String.ofList zone)
    return { date, hour, minute, second, offset }
  | _ => none

/-- The seconds from 1970-01-01T00:00:00Z. -/
def toSeconds (c : CivilTime) : Int :=
  c.date.toDays * 86400 + c.hour * 3600 + c.minute * 60 + c.second - c.offset.seconds

end CivilTime

/-! ### Dates and times -/

theorem splitOn_three (sep : Char) {a b c : List Char} (ha : sep ∉ a) (hb : sep ∉ b)
    (hc : sep ∉ c) : (a ++ sep :: (b ++ sep :: c)).splitOn sep = [a, b, c] := by
  rw [List.splitOn_append_cons_self_of_not_mem ha, List.splitOn_append_cons_self_of_not_mem hb,
    List.splitOn_eq_singleton hc]

namespace CivilTime

theorem cutSign_digits {cs : List Char} (hne : cs ≠ []) (h : ∀ c ∈ cs, c.isDigit = true)
    (rest : List Char) : cutSign (cs ++ rest) = (false, cs ++ rest) := by
  obtain ⟨c, cs, rfl⟩ := List.exists_cons_of_ne_nil hne
  have hc := h c List.mem_cons_self
  rw [List.cons_append, cutSign]
  all_goals
    rintro ds heq
    cases heq
    cases hc

theorem cutSign_yearText (year : Int) (rest : List Char) :
    cutSign (Moment.yearText year ++ rest) =
      (decide (year < 0), zeroPadded 4 year.natAbs ++ rest) := by
  unfold Moment.yearText
  split
  case isTrue h =>
    have hnatAbs : year.toNat = year.natAbs := by omega
    rw [cutSign_digits (zeroPadded_ne_nil 4 _) (isDigit_of_mem_zeroPadded 4 _),
      hnatAbs, decide_eq_false (by omega)]
  case isFalse h =>
    by_cases hneg : year < 0 <;> simp [hneg, cutSign]

theorem date?_dateText {m : Moment} (h : m.date.isValid = true) :
    date? m.dateText = some m.date := by
  obtain ⟨hmonth, hday⟩ : m.date.month < 100 ∧ m.date.day < 100 := by
    have hle := Date.le_of_isValid h
    omega
  have hfields := splitOn_three '-'
    (not_mem_of_isDigit (isDigit_of_mem_zeroPadded 4 m.date.year.natAbs) rfl)
    (not_mem_of_isDigit (isDigit_of_mem_twoDigits hmonth) rfl)
    (not_mem_of_isDigit (isDigit_of_mem_twoDigits hday) rfl)
  have hyear : (if m.date.year < 0 then -(m.date.year.natAbs : Int) else m.date.year.natAbs) =
      m.date.year := by
    split <;> omega
  rw [date?, Moment.dateText, List.append_assoc, List.cons_append, cutSign_yearText]
  simp only [hfields, number?_zeroPadded, number?_twoDigits hmonth, number?_twoDigits hday,
    Option.bind_eq_bind, Option.bind_some, Option.pure_def, decide_eq_true_eq, hyear]

theorem time?_timeText {m : Moment} (hhour : m.hour < 24) (hsecond : m.second ≤ 60) :
    time? m.timeText = some (m.hour, m.minute, m.second) := by
  have hhour : m.hour < 100 := by omega
  have hminute : m.minute < 100 := m.minute_lt.trans (by decide)
  have hsecond : m.second < 100 := by omega
  have hfields := splitOn_three ':'
    (not_mem_of_isDigit (isDigit_of_mem_twoDigits hhour) rfl)
    (not_mem_of_isDigit (isDigit_of_mem_twoDigits hminute) rfl)
    (not_mem_of_isDigit (isDigit_of_mem_twoDigits hsecond) rfl)
  rw [time?, Moment.timeText, List.append_assoc, List.cons_append, hfields]
  simp only [number?_twoDigits hhour, number?_twoDigits hminute, number?_twoDigits hsecond,
    Option.bind_eq_bind, Option.bind_some, Option.pure_def]

def ofMoment (m : Moment) : CivilTime := ⟨m.date, m.hour, m.minute, m.second, m.offset⟩

/-- The seconds that a clock shows are those of the instant, and one more during a leap second. -/
theorem toSeconds_ofMoment (t : Instant) (o : Offset) :
    (ofMoment (.of t o)).toSeconds =
      t.seconds + ((Moment.of t o).second - (Moment.of t o).secondOfDay % 60 : Int) := by
  have hdays := Moment.toDays_of t o
  have hday := (Moment.of t o).secondOfDay_eq
  have hoffset : (Moment.of t o).offset = o := rfl
  rw [toSeconds, ofMoment, hoffset]
  dsimp only
  omega

end CivilTime

/-! ### The fixed form -/

namespace Formatter

variable {zone : TimeZone} {f : Formatter} {t : Instant}

theorem splitOn_unformatted (h : 60 ∣ (f.displayOffset zone t).seconds) :
    (f.unformattedIn zone t).toList.splitOn ' ' =
      [(f.moment zone t).dateText, (f.moment zone t).timeText,
        (f.displayOffset zone t).colonText] := by
  have hdate : ' ' ∉ (f.moment zone t).dateText := by
    intro hmem
    obtain hdigit | hminus | hplus :=
      Moment.isDigit_or_of_mem_dateText (Date.isValid_ofDays _) _ hmem
    · cases hdigit
    · cases hminus
    · cases hplus
  have htime : ' ' ∉ (f.moment zone t).timeText := by
    intro hmem
    obtain hdigit | hcolon :=
      Moment.isDigit_or_of_mem_timeText (Moment.hour_lt t _) (Moment.second_le t h) _ hmem
    · cases hdigit
    · cases hcolon
  have hzone : ' ' ∉ (f.displayOffset zone t).colonText := by
    intro hmem
    have hblank := Offset.isBlank_of_mem_colonText h _ hmem
    cases hblank
  rw [unformattedIn, String.toList_ofList, List.append_assoc, List.cons_append]
  exact splitOn_three ' ' hdate htime hzone

theorem read?_unformatted (h : 60 ∣ (f.displayOffset zone t).seconds) :
    CivilTime.read? (f.unformattedIn zone t).toList = some (.ofMoment (f.moment zone t)) := by
  have hdate : CivilTime.date? (f.moment zone t).dateText = some (f.moment zone t).date :=
    CivilTime.date?_dateText (Date.isValid_ofDays _)
  have htime := CivilTime.time?_timeText (Moment.hour_lt t (f.displayOffset zone t))
    (Moment.second_le t h)
  have hzone := Offset.parse_eq_ok_iff.1 (Offset.parse_colonText h)
  rw [CivilTime.read?, splitOn_unformatted h]
  simp only [hdate, hzone, Option.bind_eq_bind, Option.bind_some, Option.pure_def]
  rw [moment, htime]
  rfl

/-- The text in the fixed form at an offset of whole minutes, and no other offset is ever read, has
three fields that are read back: a date of the calendar and a time of day which number the second
that was shown, the next one during a leap second, and the offset itself. -/
theorem fixed_form_is_lossless :
    (∀ text o, Offset.parse text = .ok o → 60 ∣ o.seconds) ∧
    ∀ (zone : TimeZone) (f : Formatter) (t : Instant), 60 ∣ (f.displayOffset zone t).seconds →
      (∃ field, ((f.unformattedIn zone t).toList.splitOn ' ').getLast? = some field ∧
        Offset.parse (String.ofList field) = .ok (f.displayOffset zone t)) ∧
      ∃ c, CivilTime.read? (f.unformattedIn zone t).toList = some c ∧
        c.offset = f.displayOffset zone t ∧ c.date.isValid = true ∧ c.hour < 24 ∧ c.minute < 60 ∧
        (t.nanos < 1000000000 → c.second < 60 ∧ c.toSeconds = t.seconds) ∧
        (1000000000 ≤ t.nanos → c.second = 60 ∧ c.toSeconds = t.seconds + 1) := by
  refine ⟨fun text o => Offset.dvd_of_parse, fun zone f t h => ⟨?_, ?_⟩⟩
  · rw [splitOn_unformatted h]
    exact ⟨_, rfl, Offset.parse_colonText h⟩
  · have hseconds := CivilTime.toSeconds_ofMoment t (f.displayOffset zone t)
    refine ⟨.ofMoment (.of t (f.displayOffset zone t)), read?_unformatted h, rfl,
      Date.isValid_ofDays _, Moment.hour_lt t _, Moment.minute_lt _, fun hlt => ?_, fun hleap => ?_⟩
    · have hsecond : (Moment.of t (f.displayOffset zone t)).second =
          (Moment.of t (f.displayOffset zone t)).secondOfDay % 60 := Moment.second_eq_of_lt hlt
      exact ⟨by simp only [CivilTime.ofMoment]; omega, by omega⟩
    · obtain ⟨hsecond, hlast⟩ := Moment.second_eq_of_le hleap h
      exact ⟨hsecond, by omega⟩

/-- The first instant of all west of Greenwich, in the year before the first, and a leap second. -/
theorem fixed_form_is_lossless_first_and_leap :
    let west := initial.withOffset ⟨-86340, by decide⟩
    let india := initial.withOffset ⟨19800, by decide⟩
    let first : Instant := ⟨-8334601228800, 999999999, by decide⟩
    let leap : Instant := ⟨1483228799, 1500000000, by decide⟩
    (60 ∣ (west.displayOffset .utc first).seconds ∧ first.nanos < 1000000000 ∧
      ∃ c, CivilTime.read? (west.unformatted first).toList = some c ∧
        c.offset = west.displayOffset .utc first ∧ c.toSeconds = -8334601228800) ∧
    (60 ∣ (india.displayOffset .utc leap).seconds ∧ 1000000000 ≤ leap.nanos ∧
      ∃ c, CivilTime.read? (india.unformatted leap).toList = some c ∧ c.second = 60 ∧
        c.toSeconds = 1483228800) := by
  intro west india first leap
  have hwest : 60 ∣ (west.displayOffset .utc first).seconds := by decide
  have hindia : 60 ∣ (india.displayOffset .utc leap).seconds := by decide
  obtain ⟨-, c, hread, hoffset, -, -, -, hplain, -⟩ :=
    fixed_form_is_lossless.2 .utc west first hwest
  obtain ⟨-, d, hread', -, -, -, -, -, hleap⟩ := fixed_form_is_lossless.2 .utc india leap hindia
  have hfirst : first.nanos < 1000000000 := by decide
  have hsecond : 1000000000 ≤ leap.nanos := by decide
  exact ⟨⟨hwest, hfirst, c, hread, hoffset, (hplain hfirst).2⟩,
    hindia, hsecond, d, hread', (hleap hsecond).1, (hleap hsecond).2⟩

example : (initial.withOffset ⟨-86340, by decide⟩).unformatted
    ⟨-8334601228800, 0, by decide⟩ = "-262144-12-31 00:01:00 -23:59" := by
  decide +kernel

end Formatter

end LocaleClock
