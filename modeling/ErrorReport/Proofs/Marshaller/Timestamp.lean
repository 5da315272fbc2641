import ErrorReport.Proofs.Calendar
import ErrorReport.Proofs.Marshaller.Document
import ErrorReport.Proofs.Text.Decimal
import ErrorReport.Proofs.Text.Split

/-!
# What a timestamp says

The timestamp in a document is a date and a time of day.  A `Moment` is what a receiver reads from it
(`Moment.read?`); `Moment.seconds` counts the seconds up to it by the calendar.  The text of an
instant in the years from 0 to 9999 is the one of such a moment, valid and with the count of the
instant's whole second (`Instant.seconds_moment`).

Its numbers have fixed widths and stand in the order of their weight, so texts are ordered like
moments (`Moment.text_lt_iff`), and these like their counts (`Moment.Before.seconds_lt`), leap
seconds aside: such a second has the same count as the one after it.
-/

set_option autoImplicit false

namespace ErrorReport

open Json (Value)

/-! ## Numbers of fixed width -/

/-- Texts that start with equally long parts are ordered by these first. -/
theorem append_lt_append_iff {a b s t : List Char} (h : a.length = b.length) :
    a ++ s < b ++ t ↔ a < b ∨ a = b ∧ s < t := by
  induction a generalizing b with
  | nil =>
    obtain rfl := List.eq_nil_of_length_eq_zero h.symm
    simp
  | cons c a ih =>
    obtain ⟨d, b, rfl⟩ := List.exists_cons_of_length_eq_add_one h.symm
    simp only [List.cons_append, List.cons_lt_cons_iff, List.cons.injEq, ih (Nat.succ.inj h)]
    tauto

namespace Instant

variable {width n m : Nat}

theorem length_padded (hwidth : 0 < width) (h : n < 10 ^ width) : (padded width n).length = width := by
  have hlength := (Nat.length_toDigits_le_iff (by decide) hwidth).2 h
  rw [padded, List.length_append, List.length_replicate]
  omega

theorem isDigit_of_mem_padded {c : Char} (h : c ∈ padded width n) : c.isDigit = true := by
  rcases List.mem_append.1 h with h | h
  · rw [(List.mem_replicate.1 h).2]
    decide
  · exact Text.isDigit_of_mem_decimal h

theorem decimal_padded (width n : Nat) : Nat.ofDigitChars 10 (padded width n) 0 = n := by
  rw [padded, Nat.ofDigitChars_append, Nat.ofDigitChars_replicate_zero, Nat.mul_zero,
    Nat.ofDigitChars_ten_toDigits]

theorem padded_lt_padded_iff (hwidth : 0 < width) (hn : n < 10 ^ width) (hm : m < 10 ^ width) :
    padded width n < padded width m ↔ n < m := by
  have hlt {n m : Nat} (hn : n < 10 ^ width) (hm : m < 10 ^ width)
      (h : padded width n < padded width m) : n < m := by
    have := Text.decimal_lt_decimal (fun _ => isDigit_of_mem_padded)
      (fun _ => isDigit_of_mem_padded)
      ((length_padded hwidth hn).trans (length_padded hwidth hm).symm) h
    rwa [decimal_padded, decimal_padded] at this
  refine ⟨hlt hn hm, fun h => ?_⟩
  rcases Std.lt_trichotomy (padded width n) (padded width m) with hlt' | heq | hgt
  · exact hlt'
  · have hsame := congrArg (Nat.ofDigitChars 10 · 0) heq
    simp only [decimal_padded] at hsame
    omega
  · exact absurd (hlt hm hn hgt) (Nat.lt_asymm h)

theorem append_padded_lt_iff {s t : List Char} (hwidth : 0 < width) (hn : n < 10 ^ width)
    (hm : m < 10 ^ width) :
    padded width n ++ s < padded width m ++ t ↔ n < m ∨ n = m ∧ s < t := by
  rw [append_lt_append_iff ((length_padded hwidth hn).trans (length_padded hwidth hm).symm),
    padded_lt_padded_iff hwidth hn hm]
  refine or_congr_right (and_congr_left fun _ => ⟨fun heq => ?_, fun heq => heq ▸ rfl⟩)
  have hsame := congrArg (Nat.ofDigitChars 10 · 0) heq
  simpa only [decimal_padded] using hsame

end Instant

/-! ## Dates with a time of day -/

/-- A date and a time of day. -/
structure Moment where
  date : Date
  hour : Nat
  minute : Nat
  second : Nat
  deriving DecidableEq, Repr

namespace Moment

open Instant (padded)

/-- Whether there is such a moment.  The second with the number 60 is a leap second. -/
def isValid (w : Moment) : Bool :=
  w.date.isValid && w.hour < 24 && w.minute < 60 && w.second ≤ 60

/-- How many seconds a moment lies after the start of 1970, leap seconds before it aside. -/
def seconds (w : Moment) : Int := w.date.days * 86400 + w.hour * 3600 + w.minute * 60 + w.second

/-- The number in the first characters of a text, all of which must be digits, and what follows
them. -/
def number? (width : Nat) (s : List Char) : Option (Nat × List Char) :=
  if (s.take width).length = width ∧ (s.take width).all Char.isDigit then
    some (Nat.ofDigitChars 10 (s.take width) 0, s.drop width)
  else none

/-- The same behind a mark. -/
def numberBehind? (mark : Char) (width : Nat) (s : List Char) : Option (Nat × List Char) :=
  ([mark].isPrefixOf? s).bind (number? width)

/-- Reads a date and a time of day in the form `2001-09-09T01:46:40`. -/
def read? (s : List Char) : Option Moment := do
  let (year, s) ← number? 4 s
  let (month, s) ← numberBehind? '-' 2 s
  let (day, s) ← numberBehind? '-' 2 s
  let (hour, s) ← numberBehind? 'T' 2 s
  let (minute, s) ← numberBehind? ':' 2 s
  let (second, s) ← numberBehind? ':' 2 s
  if s.isEmpty then some ⟨⟨year, month, day⟩, hour, minute, second⟩ else none

/-- The form that is read. -/
def text (w : Moment) : List Char :=
  padded 4 w.date.year.natAbs ++ (['-'] ++ (padded 2 w.date.month ++ (['-'] ++
    (padded 2 w.date.day ++ (['T'] ++ (padded 2 w.hour ++ ([':'] ++ (padded 2 w.minute ++
      ([':'] ++ (padded 2 w.second ++ []))))))))))

variable {v w : Moment}

/-- The numbers of a moment have room in its text. -/
structure Fits (w : Moment) : Prop where
  year_nonneg : 0 ≤ w.date.year
  year_lt : w.date.year.natAbs < 10 ^ 4
  month_lt : w.date.month < 10 ^ 2
  day_lt : w.date.day < 10 ^ 2
  hour_lt : w.hour < 10 ^ 2
  minute_lt : w.minute < 10 ^ 2
  second_lt : w.second < 10 ^ 2

theorem number?_padded {width n : Nat} (hwidth : 0 < width) (h : n < 10 ^ width) (s : List Char) :
    number? width (padded width n ++ s) = some (n, s) := by
  have hlength := Instant.length_padded hwidth h
  have htake : (padded width n ++ s).take width = padded width n := List.take_left' hlength
  have hdrop : (padded width n ++ s).drop width = s := List.drop_left' hlength
  have hdigits : (padded width n).all Char.isDigit = true :=
    List.all_eq_true.2 fun _ => Instant.isDigit_of_mem_padded
  rw [number?, htake, hdrop, if_pos ⟨hlength, hdigits⟩, Instant.decimal_padded]

theorem numberBehind?_padded {width n : Nat} (mark : Char) (hwidth : 0 < width) (h : n < 10 ^ width)
    (s : List Char) : numberBehind? mark width ([mark] ++ (padded width n ++ s)) = some (n, s) := by
  rw [numberBehind?, Text.isPrefixOf?_append, Option.bind_some, number?_padded hwidth h]

/-- **A moment is read back from its text.** -/
theorem read?_text (h : w.Fits) : read? w.text = some w := by
  have hyear : (w.date.year.natAbs : Int) = w.date.year := Int.natAbs_of_nonneg h.year_nonneg
  simp only [read?, text, number?_padded (by decide) h.year_lt,
    numberBehind?_padded _ (by decide) h.month_lt, numberBehind?_padded _ (by decide) h.day_lt,
    numberBehind?_padded _ (by decide) h.hour_lt, numberBehind?_padded _ (by decide) h.minute_lt,
    numberBehind?_padded _ (by decide) h.second_lt, Option.bind_eq_bind, Option.bind_some,
    List.isEmpty_nil, if_true, hyear]

/-! ## The order of moments -/

/-- A moment comes before another one. -/
def Before (v w : Moment) : Prop :=
  v.date.Before w.date ∨ v.date = w.date ∧ (v.hour < w.hour ∨ v.hour = w.hour ∧
    (v.minute < w.minute ∨ v.minute = w.minute ∧ v.second < w.second))

theorem cons_append_lt_iff {c : Char} {s t : List Char} : [c] ++ s < [c] ++ t ↔ s < t := by
  simp

/-- **Texts are ordered like moments.** -/
theorem before_of_text_lt (hv : v.Fits) (hw : w.Fits) (h : v.text < w.text) : v.Before w := by
  rw [text, text, Instant.append_padded_lt_iff (by decide) hv.year_lt hw.year_lt,
    cons_append_lt_iff, Instant.append_padded_lt_iff (by decide) hv.month_lt hw.month_lt,
    cons_append_lt_iff, Instant.append_padded_lt_iff (by decide) hv.day_lt hw.day_lt,
    cons_append_lt_iff, Instant.append_padded_lt_iff (by decide) hv.hour_lt hw.hour_lt,
    cons_append_lt_iff, Instant.append_padded_lt_iff (by decide) hv.minute_lt hw.minute_lt,
    cons_append_lt_iff, Instant.append_padded_lt_iff (by decide) hv.second_lt hw.second_lt] at h
  have hv' := Int.natAbs_of_nonneg hv.year_nonneg
  have hw' := Int.natAbs_of_nonneg hw.year_nonneg
  rcases h with hyear | ⟨hyear, hmonth | ⟨hmonth, hday | ⟨hday, htime⟩⟩⟩
  · exact .inl (.inl (by omega))
  · exact .inl (.inr ⟨by omega, .inl hmonth⟩)
  · exact .inl (.inr ⟨by omega, .inr ⟨hmonth, hday⟩⟩)
  · refine .inr ⟨?_, by simpa using htime⟩
    cases hdate : v.date
    cases hdate' : w.date
    simp only [hdate, hdate', Date.mk.injEq] at *
    exact ⟨by omega, hmonth, hday⟩

theorem isValid_iff : w.isValid = true ↔
    w.date.isValid = true ∧ w.hour < 24 ∧ w.minute < 60 ∧ w.second ≤ 60 := by
  simp only [isValid, Bool.and_eq_true, decide_eq_true_eq, and_assoc]

/-- **Later moments have greater counts of seconds,** if they lie in no leap second. -/
theorem Before.seconds_lt (h : v.Before w) (hv : v.isValid = true) (hw : w.isValid = true)
    (hleap : v.second ≠ 60) : v.seconds < w.seconds := by
  obtain ⟨hdatev, hhourv, hminutev, hsecondv⟩ := isValid_iff.1 hv
  obtain ⟨hdatew, -, -, -⟩ := isValid_iff.1 hw
  rw [seconds, seconds]
  rcases h with hdate | ⟨hdate, htime⟩
  · have := hdate.days_lt hdatev hdatew
    omega
  · rw [hdate]
    omega

/-- **Without leap seconds, texts are ordered like counts of seconds.** -/
theorem text_lt_iff (hv : v.Fits) (hw : w.Fits) (hv' : v.isValid = true) (hw' : w.isValid = true)
    (hleapv : v.second ≠ 60) (hleapw : w.second ≠ 60) : v.text < w.text ↔ v.seconds < w.seconds := by
  refine ⟨fun h => (before_of_text_lt hv hw h).seconds_lt hv' hw' hleapv, fun h => ?_⟩
  rcases Std.lt_trichotomy v.text w.text with hlt | heq | hgt
  · exact hlt
  · have hsame : some v = some w := by rw [← read?_text hv, heq, read?_text hw]
    exact absurd h (Option.some.inj hsame ▸ Int.lt_irrefl _)
  · have := (before_of_text_lt hw hv hgt).seconds_lt hw' hv' hleapw
    omega

end Moment

/-! ## The moment of an instant -/

namespace Instant

variable {t : Instant}

/-- The moment that the text of an instant shows. -/
def moment (t : Instant) : Moment :=
  let s := t.secondOfDay
  ⟨t.date, s / 3600, s / 60 % 60, s % 60 + t.nanos / 1000000000⟩

/-- The whole second of an instant.  The fraction goes, and what it adds to a negative count with it.
A leap second counts like the second after it. -/
def wholeSecond (t : Instant) : Int := t.seconds + (t.nanos / 1000000000 : Nat)

/-- An instant lies in a leap second, which follows the last second of a minute.  So many nanoseconds on
top of another second reach into the second after it. -/
def InLeapSecond (t : Instant) : Prop := t.seconds % 60 = 59 ∧ 1000000000 ≤ t.nanos

/-- An instant that is written without a sign: it lies in the years from 0 to 9999.  It has less than
two seconds' worth of nanoseconds. -/
structure IsWritable (t : Instant) : Prop where
  nanos_lt : t.nanos < 2000000000
  year_nonneg : 0 ≤ t.date.year
  year_le : t.date.year ≤ 9999

theorem IsWritable.text_eq (h : t.IsWritable) : t.text.toList = t.moment.text := by
  simp only [text, String.toList_ofList, yearText, if_pos (And.intro h.year_nonneg h.year_le),
    Moment.text, moment, List.append_assoc, List.cons_append, List.nil_append, List.append_nil]

theorem secondOfDay_lt (t : Instant) : t.secondOfDay < 86400 := by
  unfold secondOfDay
  omega

theorem IsWritable.isValid_moment (h : t.IsWritable) : t.moment.isValid = true := by
  have hsecond := t.secondOfDay_lt
  have hnanos := h.nanos_lt
  rw [Moment.isValid_iff]
  refine ⟨Date.isValid_ofDays _, ?_, ?_, ?_⟩ <;> simp only [moment] <;> omega

theorem IsWritable.fits_moment (h : t.IsWritable) : t.moment.Fits := by
  obtain ⟨hdate, hhour, hminute, hsecond⟩ := Moment.isValid_iff.1 h.isValid_moment
  obtain ⟨-, hmonth, -, hday⟩ := Date.isValid_iff.1 hdate
  have hlength := Date.monthLength_le t.moment.date.year t.moment.date.month
  have hyear : 0 ≤ t.moment.date.year ∧ t.moment.date.year ≤ 9999 := ⟨h.year_nonneg, h.year_le⟩
  constructor <;> omega

theorem seconds_moment (t : Instant) : t.moment.seconds = t.wholeSecond := by
  have hdays : t.moment.date.days = t.seconds / 86400 := Date.days_ofDays _
  rw [Moment.seconds, hdays, wholeSecond]
  simp only [moment, secondOfDay]
  omega

theorem IsWritable.second_moment_iff (h : t.IsWritable) : t.moment.second = 60 ↔ t.InLeapSecond := by
  have hnanos := h.nanos_lt
  simp only [moment, secondOfDay, InLeapSecond]
  omega

/-- **The text of an instant says when it is.** -/
theorem IsWritable.read?_text (h : t.IsWritable) : Moment.read? t.text.toList = some t.moment := by
  rw [h.text_eq, Moment.read?_text h.fits_moment]

/-- **Outside leap seconds, texts are ordered like whole seconds.** -/
theorem IsWritable.text_lt_iff {u : Instant} (ht : t.IsWritable) (hu : u.IsWritable)
    (hleapt : ¬t.InLeapSecond) (hleapu : ¬u.InLeapSecond) :
    t.text < u.text ↔ t.wholeSecond < u.wholeSecond := by
  rw [String.lt_iff, ht.text_eq, hu.text_eq, Moment.text_lt_iff ht.fits_moment hu.fits_moment
    ht.isValid_moment hu.isValid_moment (mt ht.second_moment_iff.1 hleapt)
    (mt hu.second_moment_iff.1 hleapu), seconds_moment, seconds_moment]

end Instant

namespace Marshaller

theorem member?_timestamp {m : Marshaller} {e : Event} {document : Value}
    (h : m.document? e = .ok document) :
    document.member? "timestamp" = some (.string e.timestamp.text) := by
  obtain ⟨members, -, rfl⟩ := exists_members_of_document? h
  rfl

/-- **What documents say about the time of an event.**  The timestamp is a date and a time that there
are, they lie in the whole second of the event, and the second has the number 60 just for a leap
second.  Among other events, the bytes of the timestamps are ordered like the whole seconds. -/
theorem timestamps_faithful {e : Event} (he : e.timestamp.IsWritable) :
    (∀ (m : Marshaller) document, m.document? e = .ok document →
      document.member? "timestamp" = some (.string e.timestamp.text)) ∧
    (∃ w, Moment.read? e.timestamp.text.toList = some w ∧ w.isValid = true ∧
      w.seconds = e.timestamp.wholeSecond ∧ (w.second = 60 ↔ e.timestamp.InLeapSecond)) ∧
    ∀ f : Event, f.timestamp.IsWritable → ¬e.timestamp.InLeapSecond → ¬f.timestamp.InLeapSecond →
      (Text.bytesOf e.timestamp.text < Text.bytesOf f.timestamp.text ↔
        e.timestamp.wholeSecond < f.timestamp.wholeSecond) := by
  refine ⟨fun m document => member?_timestamp, ⟨_, he.read?_text, he.isValid_moment,
    e.timestamp.seconds_moment, he.second_moment_iff⟩, fun f hf hleape hleapf => ?_⟩
  rw [Text.bytesOf_lt_iff, he.text_lt_iff hf hleape hleapf]

/-- An event at some time. -/
def eventAt (t : Instant) : Event := { sampleEvent with timestamp := t }

/-- The last leap second up to now, and the last half second before 1970. -/
theorem timestamps_faithful_sample :
    (∃ document, new.document? (eventAt ⟨1483228799, 1999999999⟩) = .ok document ∧
      document.member? "timestamp" = some (.string "2016-12-31T23:59:60")) ∧
    (∃ w, Moment.read? "2016-12-31T23:59:60".toList = some w ∧ w.isValid = true ∧
      w.seconds = 1483228800 ∧ w.second = 60) ∧
    Text.bytesOf "1969-12-31T23:59:59" < Text.bytesOf "1970-01-01T00:00:00" := by
  have hleap : (eventAt ⟨1483228799, 1999999999⟩).timestamp.IsWritable := by
    constructor <;> decide
  have hearly : (eventAt ⟨-1, 500000000⟩).timestamp.IsWritable := by constructor <;> decide
  have hstart : (eventAt ⟨0, 0⟩).timestamp.IsWritable := by constructor <;> decide
  obtain ⟨hmember, ⟨w, hread, hvalid, hseconds, hsecond⟩, -⟩ := timestamps_faithful hleap
  refine ⟨⟨_, rfl, hmember new _ rfl⟩, ⟨w, hread, hvalid, hseconds, hsecond.2 ?_⟩, ?_⟩
  · exact ⟨by decide, by decide⟩
  · refine ((timestamps_faithful hearly).2.2 (eventAt ⟨0, 0⟩) hstart ?_ ?_).2 (by decide)
    · exact fun h => absurd h.2 (by decide)
    · exact fun h => absurd h.2 (by decide)

end Marshaller

end ErrorReport
