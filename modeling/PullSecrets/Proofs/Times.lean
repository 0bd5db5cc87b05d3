import Mathlib.Data.List.TakeWhile
import Mathlib.Data.Nat.Digits.Defs
import Mathlib.Tactic.IntervalCases
import PullSecrets.Instant
import PullSecrets.Proofs.Literals

/-! # Times read back

A time that was read is read back from its own text, to the second: the fraction of the second is
not written (`read?_text`). Days are counted in years that start in March; of such a year the days
from `yearStart` on are its own (`yearOf_spec`), so that a day is told by its date
(`dayNumber_ofDayNumber`).
-/

namespace PullSecrets

namespace Date

/-- The days before a year of a period of 400 years. -/
def yearStart (y : Nat) : Nat := 365 * y + y / 4 - y / 100 + y / 400

/-- The year of a day of a period of 400 years. -/
def yearOf (d : Nat) : Nat := (d - d / 1460 + d / 36524 - d / 146096) / 365

theorem yearOf_succ {d : Nat} (within : d + 1 < 146097) : yearOf d ≤ yearOf (d + 1) := by
  apply Nat.div_le_div_right
  omega

theorem yearOf_mono {d e : Nat} (before : d ≤ e) (within : e < 146097) : yearOf d ≤ yearOf e := by
  induction before with
  | refl => exact Nat.le_refl _
  | step before ih => exact Nat.le_trans (ih (by omega)) (yearOf_succ within)

/-- The first and the last day of a year are in it. -/
theorem yearOf_ends :
    ∀ y < 400, yearOf (yearStart y) = y ∧ yearOf (yearStart (y + 1) - 1) = y := by
  decide +kernel

theorem yearOf_spec {d : Nat} (within : d < 146097) :
    yearOf d < 400 ∧ yearStart (yearOf d) ≤ d ∧ d < yearStart (yearOf d + 1) := by
  have last : yearOf d < 400 := by
    unfold yearOf
    omega
  refine ⟨last, ?_, ?_⟩
  · apply Nat.le_of_not_lt
    intro early
    have positive : 0 < yearOf d := by
      apply Nat.pos_of_ne_zero
      intro zero
      rw [zero] at early
      exact absurd early (Nat.not_lt_zero d)
    have ends := (yearOf_ends (yearOf d - 1) (by omega)).2
    rw [Nat.sub_add_cancel positive] at ends
    have before := yearOf_mono (d := d) (e := yearStart (yearOf d) - 1) (by omega)
      (by unfold yearStart; omega)
    omega
  · apply Nat.lt_of_not_le
    intro late
    by_cases next : yearOf d + 1 < 400
    · have starts := (yearOf_ends (yearOf d + 1) next).1
      have after := yearOf_mono late within
      omega
    · have closing : yearStart 400 = 146097 := by decide
      have : yearOf d + 1 = 400 := by omega
      rw [this, closing] at late
      omega

/-- The day of a year that starts in March, as a date of the year in which it starts. -/
def ofDayOfYear (y : Int) (d : Nat) : Date :=
  let month := (5 * d + 2) / 153
  let m := if month < 10 then month + 3 else month - 9
  ⟨if m ≤ 2 then y + 1 else y, m, d - (153 * month + 2) / 5 + 1⟩

/-- A day has a period of 400 years, a year in it, and a place in that year. -/
theorem exists_parts (n : Int) : ∃ (era : Int) (y d : Nat),
    y < 400 ∧ yearStart y + d < yearStart (y + 1) ∧
      n = era * 146097 + (yearStart y + d : Nat) - 719468 ∧
      ofDayNumber n = ofDayOfYear (y + era * 400) d := by
  obtain ⟨era, whole⟩ : ∃ era, (n + 719468).fdiv 146097 = era := ⟨_, rfl⟩
  have period : era = (n + 719468) / 146097 := by
    rw [← whole]
    exact Int.fdiv_eq_ediv_of_nonneg _ (by decide)
  obtain ⟨k, rest⟩ : ∃ k : Nat, n + 719468 - era * 146097 = k :=
    Int.eq_ofNat_of_zero_le (by omega)
  obtain ⟨last, starts, ends⟩ := yearOf_spec (d := k) (by omega)
  refine ⟨era, yearOf k, k - yearStart (yearOf k), last, by omega, by omega, ?_⟩
  have year : ((k : Int) - k / 1460 + k / 36524 - k / 146096) / 365 = yearOf k := by
    unfold yearOf
    omega
  have day : (k : Int) - (365 * yearOf k + yearOf k / 4 - yearOf k / 100) =
      (k - yearStart (yearOf k) : Nat) := by
    unfold yearStart at *
    omega
  simp only [ofDayNumber, ofDayOfYear, whole, rest, year, day]
  generalize k - yearStart (yearOf k) = d
  generalize (yearOf k : Int) + era * 400 = y
  generalize same : (5 * d + 2) / 153 = month
  have cast : (5 * (d : Int) + 2) / 153 = month := by omega
  simp only [cast]
  have turn : (if (month : Int) < 10 then (month : Int) + 3 else month - 9) =
      (if month < 10 then month + 3 else month - 9 : Nat) := by
    split <;> split <;> omega
  rw [turn]
  congr 1
  · split <;> split <;> omega
  · omega

theorem isLeapYear_of_last {y d : Nat} (era : Int) (within : yearStart y + d < yearStart (y + 1))
    (long : 365 ≤ d) : d = 365 ∧ isLeapYear (y + era * 400 + 1) = true := by
  simp only [isLeapYear, Bool.or_eq_true, Bool.and_eq_true, beq_iff_eq, bne_iff_ne]
  unfold yearStart at within
  omega

theorem monthLength_ne {y : Int} {m : Nat} (other : m ≠ 2) :
    monthLength y m = if m = 4 ∨ m = 6 ∨ m = 9 ∨ m = 11 then 30 else 31 := by
  rw [monthLength, if_neg other]

theorem le_of_within {y d : Nat} (within : yearStart y + d < yearStart (y + 1)) : d ≤ 365 := by
  unfold yearStart at within
  omega

theorem isDay_iff (n : Int) : isDay n = true ↔ -96465292 ≤ n ∧ n ≤ 95026236 := by
  have first : (mk firstYear 1 1).dayNumber = -96465292 := by decide
  have last : (mk lastYear 12 31).dayNumber = 95026236 := by decide
  rw [isDay, first, last]
  simp

/-- The date of a day that has one is in a year that has dates. -/
theorem ofDayOfYear_year {y d : Nat} (era : Int) (last : y < 400)
    (within : yearStart y + d < yearStart (y + 1))
    (dated : isDay (era * 146097 + (yearStart y + d : Nat) - 719468) = true) :
    firstYear ≤ (ofDayOfYear (y + era * 400) d).year ∧
      (ofDayOfYear (y + era * 400) d).year ≤ lastYear := by
  have short := le_of_within within
  obtain ⟨early, late⟩ := (isDay_iff _).1 dated
  unfold yearStart at within early late
  have lowest : -656 ≤ era := by omega
  have highest : era ≤ 655 := by omega
  have first : era = -656 → 256 ≤ y := by omega
  have final : era = 655 → y ≤ 142 := by omega
  have opening : era = -656 → y = 256 → 306 ≤ d := by omega
  have closing : era = 655 → y = 142 → d ≤ 305 := by omega
  clear within early late
  simp only [ofDayOfYear, firstYear, lastYear]
  by_cases turned : (5 * d + 2) / 153 < 10
  · have later : ¬ (5 * d + 2) / 153 + 3 ≤ 2 := by omega
    simp only [turned, later, if_true, if_false]
    omega
  · have next : (5 * d + 2) / 153 - 9 ≤ 2 := by omega
    simp only [turned, next, if_true, if_false]
    omega

theorem ofDayOfYear_valid {y : Nat} {d : Nat} (era : Int) (last : y < 400)
    (within : yearStart y + d < yearStart (y + 1))
    (dated : isDay (era * 146097 + (yearStart y + d : Nat) - 719468) = true) :
    let date := ofDayOfYear (y + era * 400) d
    ofParts? date.year date.month date.day = some date := by
  intro date
  have short := le_of_within within
  obtain ⟨first, final⟩ := ofDayOfYear_year era last within dated
  refine if_pos ⟨first, final, ?_⟩
  simp only [date, ofDayOfYear]
  generalize same : (5 * d + 2) / 153 = month
  have bound : month ≤ 11 := by omega
  by_cases february : month = 11
  · subst february
    simp only [monthLength]
    by_cases long : 365 ≤ d
    · obtain ⟨rfl, leap⟩ := isLeapYear_of_last era within long
      simp [leap]
    · simp
      split <;> omega
  · rw [monthLength_ne (by split <;> omega)]
    interval_cases month <;> simp <;> omega

/-- Year and month tell the year that starts in March, and the month of it. -/
theorem ofDayOfYear_month (y : Int) {d : Nat} (short : d ≤ 365) :
    let date := ofDayOfYear y d
    (if date.month ≤ 2 then date.year - 1 else date.year) = y ∧
      ((date.month : Int) + 9) % 12 = ((5 * d + 2) / 153 : Nat) := by
  simp only [ofDayOfYear]
  by_cases early : (5 * d + 2) / 153 < 10
  · have later : ¬ (5 * d + 2) / 153 + 3 ≤ 2 := by omega
    simp only [early, later, if_true, if_false, true_and]
    omega
  · have turned : (5 * d + 2) / 153 - 9 ≤ 2 := by omega
    simp only [early, turned, if_true, if_false]
    omega

theorem dayNumber_ofDayOfYear {y d : Nat} (era : Int) (last : y < 400)
    (within : yearStart y + d < yearStart (y + 1)) :
    dayNumber (ofDayOfYear (y + era * 400) d) =
      era * 146097 + (yearStart y + d : Nat) - 719468 := by
  unfold yearStart at within ⊢
  obtain ⟨year, month⟩ := ofDayOfYear_month (y + era * 400) (d := d) (by omega)
  have period : ((y : Int) + era * 400).fdiv 400 = era := by
    rw [Int.fdiv_eq_ediv_of_nonneg _ (by decide)]
    omega
  have day : (ofDayOfYear (y + era * 400) d).day = d - (153 * ((5 * d + 2) / 153) + 2) / 5 + 1 :=
    rfl
  simp only [dayNumber, year, month, period, day]
  omega

/-- A day is told by its date, which is a valid one. -/
theorem dayNumber_ofDayNumber {n : Int} (dated : isDay n = true) :
    let date := ofDayNumber n
    dayNumber date = n ∧ ofParts? date.year date.month date.day = some date := by
  obtain ⟨era, y, d, last, within, rfl, date⟩ := exists_parts n
  simp only [date]
  exact ⟨dayNumber_ofDayOfYear era last within, ofDayOfYear_valid era last within dated⟩

theorem small_of_ofParts? {y : Int} {m d : Nat} {date : Date} (read : ofParts? y m d = some date) :
    m < 10 ^ 2 ∧ d < 10 ^ 2 := by
  unfold ofParts? at read
  split at read
  · next valid =>
      have long : monthLength y m ≤ 31 := by
        unfold monthLength
        split
        · split <;> omega
        · split <;> omega
      omega
  · cases read

end Date

namespace Instant

theorem isBlank_of_isDigit {c : Char} (digit : c.isDigit = true) : Text.isBlank c = false := by
  have range : 48 ≤ c.toNat ∧ c.toNat ≤ 57 := by
    simpa [Char.isDigit, UInt32.le_iff_toNat_le] using digit
  cases blank : Text.isBlank c with
  | false => rfl
  | true =>
      simp only [Text.isBlank, Bool.or_eq_true, Bool.and_eq_true, decide_eq_true_eq,
        beq_iff_eq] at blank
      omega

theorem skipBlanks_cons {c : Char} (solid : Text.isBlank c = false) (cs : List Char) :
    skipBlanks (c :: cs) = c :: cs := by
  rw [skipBlanks, List.dropWhile_cons_of_neg (by simp [solid])]

/-- A number is followed by something that is not a digit. -/
def Ends (rest : List Char) : Prop := ∀ c ∈ rest.head?, c.isDigit = false

theorem readDigits_append {width : Nat} {digits rest : List Char} (given : digits ≠ [])
    (all : ∀ c ∈ digits, c.isDigit = true) (fits : digits.length ≤ width) (ends : Ends rest) :
    readDigits width (digits ++ rest) = some (ofDigits digits, rest) := by
  obtain ⟨c, cs, rfl⟩ := List.exists_cons_of_ne_nil given
  have stops : (rest.take (width - (c :: cs).length)).takeWhile Char.isDigit = [] := by
    cases rest with
    | nil => simp
    | cons d ds =>
        cases width - (c :: cs).length with
        | zero => rfl
        | succ k => simp [ends d rfl]
  rw [readDigits, List.take_append, List.take_of_length_le fits,
    List.takeWhile_append_of_pos all, stops, List.append_nil, List.drop_left]
  rfl

theorem padded_isDigit {width n : Nat} : ∀ c ∈ padded width n, c.isDigit = true := by
  intro c member
  rcases List.mem_append.1 member with zero | digit
  · rw [List.eq_of_mem_replicate zero]
    rfl
  · exact Nat.isDigit_of_mem_toDigits (by decide) (by decide) digit

theorem padded_ne_nil (width n : Nat) : padded width n ≠ [] :=
  List.append_ne_nil_of_right_ne_nil _ Nat.toDigits_ne_nil

theorem ofDigits_padded (width n : Nat) : ofDigits (padded width n) = n := by
  have zeros (k : Nat) : ofDigits (List.replicate k '0') = 0 := by
    induction k with
    | zero => rfl
    | succ k ih => exact ih
  have split : ofDigits (padded width n) = (Nat.toDigits 10 n).foldl
      (fun n c => n * 10 + (c.toNat - 48)) (ofDigits (List.replicate _ '0')) := List.foldl_append
  rw [split, zeros]
  exact Literal.foldl_toDigits n

theorem length_padded {width n : Nat} (positive : 0 < width) (small : n < 10 ^ width) :
    (padded width n).length = width := by
  have := Nat.toDigits_length 10 n width positive small
  simp only [padded, List.length_append, List.length_replicate]
  omega

theorem readDigits_padded {width n : Nat} {rest : List Char} (positive : 0 < width)
    (small : n < 10 ^ width) (ends : Ends rest) :
    readDigits width (padded width n ++ rest) = some (n, rest) := by
  have fits := Nat.le_of_eq (length_padded positive small)
  rw [readDigits_append (padded_ne_nil _ _) padded_isDigit fits ends, ofDigits_padded]

theorem readNumber_padded {width n : Nat} {rest : List Char} (positive : 0 < width)
    (small : n < 10 ^ width) (ends : Ends rest) :
    readNumber width (padded width n ++ rest) = some (n, rest) := by
  obtain ⟨c, cs, digits⟩ := List.exists_cons_of_ne_nil (padded_ne_nil width n)
  have digit : c.isDigit = true := padded_isDigit c (by rw [digits]; exact .head _)
  have solid : skipBlanks (padded width n ++ rest) = padded width n ++ rest := by
    rw [digits]
    exact skipBlanks_cons (isBlank_of_isDigit digit) _
  rw [readNumber, solid, readDigits_padded positive small ends]

theorem readMark_cons {mark : Char} (solid : Text.isBlank mark = false) (rest : List Char) :
    readMark mark (mark :: rest) = some rest := by
  rw [readMark, skipBlanks_cons solid]
  exact if_pos rfl

/-- A year without a sign has four digits. -/
theorem readYear_unsigned {c : Char} (digit : c.isDigit = true) (cs : List Char) :
    readYear (c :: cs) = (readDigits 4 (c :: cs)).map fun (n, rest) => ((n : Int), rest) := by
  rw [readYear, skipBlanks_cons (isBlank_of_isDigit digit)]
  split
  · next same =>
      rw [(List.cons.inj same).1] at digit
      exact absurd digit (by decide)
  · next same =>
      rw [(List.cons.inj same).1] at digit
      exact absurd digit (by decide)
  · rfl

theorem readYear_yearText (y : Int) {rest : List Char} (ends : Ends rest) :
    readYear (yearText y ++ rest) = some (y, rest) := by
  unfold yearText
  split
  · next short =>
      have read : readDigits 4 (padded 4 y.toNat ++ rest) = some (y.toNat, rest) :=
        readDigits_padded (by decide) (by omega) ends
      obtain ⟨c, cs, digits⟩ := List.exists_cons_of_ne_nil (padded_ne_nil 4 y.toNat)
      have digit : c.isDigit = true := padded_isDigit c (by rw [digits]; exact .head _)
      rw [digits, List.cons_append] at read ⊢
      rw [readYear_unsigned digit, read]
      simp only [Option.map_some, Int.toNat_of_nonneg short.1]
  · have signed : readDigits (padded 4 y.natAbs ++ rest).length (padded 4 y.natAbs ++ rest) =
        some (y.natAbs, rest) := by
      have fits : (padded 4 y.natAbs).length ≤ (padded 4 y.natAbs ++ rest).length := by simp
      rw [readDigits_append (padded_ne_nil _ _) padded_isDigit fits ends, ofDigits_padded]
    by_cases before : y < 0
    · have same : -(y.natAbs : Int) = y := by omega
      rw [if_pos before, List.cons_append, readYear, skipBlanks_cons (by decide)]
      simp only [signed, Option.map_some, same]
    · have same : (y.natAbs : Int) = y := by omega
      rw [if_neg before, List.cons_append, readYear, skipBlanks_cons (by decide)]
      simp only [signed, Option.map_some, same]

theorem ends_cons {c : Char} (other : c.isDigit = false) (rest : List Char) : Ends (c :: rest) := by
  rintro d first
  cases first
  exact other

def dateText (d : Date) : List Char :=
  yearText d.year ++ '-' :: padded 2 d.month ++ '-' :: padded 2 d.day

theorem readDate_dateText {d : Date} {rest : List Char}
    (valid : Date.ofParts? d.year d.month d.day = some d) (ends : Ends rest) :
    readDate (dateText d ++ rest) = some (d, rest) := by
  obtain ⟨month, day⟩ := Date.small_of_ofParts? valid
  have dash (cs : List Char) : Ends ('-' :: cs) := ends_cons rfl cs
  have mark (cs : List Char) : readMark '-' ('-' :: cs) = some cs := readMark_cons rfl cs
  have months (cs : List Char) : readNumber 2 (padded 2 d.month ++ '-' :: cs) = _ :=
    readNumber_padded (by decide) month (dash cs)
  have days : readNumber 2 (padded 2 d.day ++ rest) = _ := readNumber_padded (by decide) day ends
  simp only [readDate, dateText, List.append_assoc, List.cons_append, Option.bind_eq_bind,
    readYear_yearText d.year (dash _), Option.bind_some, mark, months, days, valid]

/-- What is written for a date and a time of day is read as such. -/
theorem read?_clock {d : Date} {hour minute second : Nat}
    (valid : Date.ofParts? d.year d.month d.day = some d) (hours : hour < 10 ^ 2)
    (minutes : minute < 10 ^ 2) (seconds : second < 10 ^ 2) :
    read? (String.ofList (dateText d ++ 'T' :: padded 2 hour ++ ':' :: padded 2 minute ++
      ':' :: padded 2 second ++ ['Z'])) = ofParts? d hour minute second 0 0 := by
  have date (cs : List Char) : readDate (dateText d ++ 'T' :: cs) = some (d, 'T' :: cs) :=
    readDate_dateText valid (ends_cons rfl cs)
  have mark (cs : List Char) : readMark ':' (':' :: cs) = some cs := readMark_cons rfl cs
  have number {n : Nat} (small : n < 10 ^ 2) {c : Char} (other : c.isDigit = false)
      (cs : List Char) : readNumber 2 (padded 2 n ++ c :: cs) = some (n, c :: cs) :=
    readNumber_padded (by decide) small (ends_cons other cs)
  have colon : Char.isDigit ':' = false := rfl
  have zulu : Char.isDigit 'Z' = false := rfl
  simp only [read?, String.toList_ofList, List.append_assoc, List.cons_append,
    Option.bind_eq_bind, date, Option.bind_some, number hours colon, mark, number minutes colon,
    number seconds zulu]
  rfl

/-- To the second; what is left of a leap second is that it is one. -/
def whole (t : Instant) : Instant := ⟨t.seconds, if 1000000000 ≤ t.nanos then 1000000000 else 0⟩

/-- An instant that has a date; a leap second is the last of a minute. -/
structure Regular (t : Instant) : Prop where
  dated : t.isDated = true
  leap : 1000000000 ≤ t.nanos → t.seconds % 60 = 59

theorem text_whole (t : Instant) : t.whole.text = t.text := by
  have leap : 1000000000 ≤ t.whole.nanos ↔ 1000000000 ≤ t.nanos := by
    unfold whole
    split <;> simp_all
  simp only [text, clockText, leap]
  rfl

theorem regular_of_ofParts? {d : Date} {hour minute second nanos : Nat} {offset : Int}
    {t : Instant} (whole : offset % 60 = 0) (fraction : nanos < 1000000000)
    (read : ofParts? d hour minute second nanos offset = some t) : t.Regular := by
  obtain ⟨-, read⟩ := Option.ite_none_right_eq_some.1 read
  obtain ⟨dated, read⟩ := Option.ite_none_right_eq_some.1 read
  cases read
  refine ⟨dated, fun leap => ?_⟩
  simp only at leap ⊢
  split at leap
  · next last =>
      simp only [last, if_true]
      omega
  · omega

theorem ofDigits_lt {digits : List Char} (all : ∀ c ∈ digits, c.isDigit = true) :
    ofDigits digits < 10 ^ digits.length := by
  have onto (n : Nat) : digits.foldl (fun n c => n * 10 + (c.toNat - 48)) n <
      (n + 1) * 10 ^ digits.length := by
    induction digits generalizing n with
    | nil => simp
    | cons c cs ih =>
        have digit : c.toNat - 48 ≤ 9 := by
          have := all c (.head _)
          simp only [Char.isDigit, Bool.and_eq_true, decide_eq_true_eq, ge_iff_le,
            UInt32.le_iff_toNat_le] at this
          exact Nat.sub_le_of_le_add this.2
        have later := ih (fun d member => all d (.tail _ member)) (n * 10 + (c.toNat - 48))
        calc cs.foldl _ (n * 10 + (c.toNat - 48))
            < (n * 10 + (c.toNat - 48) + 1) * 10 ^ cs.length := later
          _ ≤ ((n + 1) * 10) * 10 ^ cs.length := Nat.mul_le_mul_right _ (by omega)
          _ = (n + 1) * 10 ^ (cs.length + 1) := by rw [Nat.pow_succ']; ac_rfl
  have bound := onto 0
  rwa [Nat.zero_add, Nat.one_mul] at bound

theorem fraction_lt {cs rest : List Char} {nanos : Nat}
    (read : readFraction cs = some (nanos, rest)) : nanos < 1000000000 := by
  unfold readFraction at read
  split at read
  · next digits =>
      rw [List.span_eq_takeWhile_dropWhile] at read
      simp only at read
      split at read
      · cases read
      · cases read
        have all : ∀ c ∈ (digits.takeWhile Char.isDigit).take 9, c.isDigit = true :=
          fun c member => List.mem_takeWhile_imp (List.mem_of_mem_take member)
        have short : ((digits.takeWhile Char.isDigit).take 9).length ≤ 9 := List.length_take_le _ _
        generalize (digits.takeWhile Char.isDigit).take 9 = kept at all short
        calc ofDigits kept * 10 ^ (9 - kept.length)
            < 10 ^ kept.length * 10 ^ (9 - kept.length) :=
              Nat.mul_lt_mul_of_pos_right (ofDigits_lt all) (Nat.pow_pos (by decide))
          _ = 1000000000 := by rw [← Nat.pow_add, Nat.add_sub_cancel' short]
  · cases read
    decide

theorem offset_minutes {cs rest : List Char} {offset : Int}
    (read : readOffset cs = some (offset, rest)) : offset % 60 = 0 := by
  have numeric {sign : Int} {h g m n : Char} (stated : offsetSeconds? sign h g m n = some offset) :
      offset % 60 = 0 := by
    unfold offsetSeconds? at stated
    split at stated
    · cases stated
      apply Int.emod_eq_zero_of_dvd
      apply Dvd.dvd.mul_left
      omega
    · cases stated
  unfold readOffset at read
  split at read
  · cases read
    rfl
  · cases read
    rfl
  · split at read
    · cases read
      rfl
    · simp only at read
      split at read
      · obtain ⟨o, stated, same⟩ := Option.map_eq_some_iff.1 read
        cases same
        exact numeric stated
      · cases read
  · cases read

theorem regular_of_read? {s : String} {t : Instant} (read : read? s = some t) : t.Regular := by
  simp only [read?, Option.bind_eq_bind, Option.bind_eq_some_iff] at read
  obtain ⟨⟨date, cs⟩, -, read⟩ := read
  split at read
  case h_4 => simp at read
  all_goals
    simp only [Option.bind_eq_some_iff] at read
    obtain ⟨cs, -, ⟨hour, cs⟩, -, cs, -, ⟨minute, cs⟩, -, cs, -, ⟨second, cs⟩, -, ⟨nanos, cs⟩,
      fraction, ⟨offset, cs⟩, zone, read⟩ := read
    split at read
    · exact regular_of_ofParts? (offset_minutes zone) (fraction_lt fraction) read
    · cases read

/-- A time is read back from its text, to the second. -/
theorem read?_text {t : Instant} (regular : t.Regular) : read? t.text = some t.whole := by
  obtain ⟨seconds, nanos⟩ := t
  obtain ⟨day, valid⟩ := Date.dayNumber_ofDayNumber regular.dated
  simp only at day valid
  have days : seconds.fdiv 86400 = seconds / 86400 :=
    Int.fdiv_eq_ediv_of_nonneg seconds (by decide)
  obtain ⟨s, rest⟩ : ∃ s : Nat, seconds - seconds.fdiv 86400 * 86400 = s :=
    Int.eq_ofNat_of_zero_le (by omega)
  have leap : 1000000000 ≤ nanos → s % 60 = 59 := by
    intro long
    have := regular.leap long
    simp only at this
    omega
  have text : text ⟨seconds, nanos⟩ = String.ofList (dateText (Date.ofDayNumber
      (seconds.fdiv 86400)) ++ 'T' :: padded 2 (s / 3600) ++ ':' :: padded 2 (s / 60 % 60) ++
      ':' :: padded 2 (s % 60 + (if 1000000000 ≤ nanos then 1 else 0)) ++ ['Z']) := by
    simp only [Instant.text, clockText, rest, Int.toNat_natCast]
    rfl
  have stays {t u : Instant} (same : t = u) (dated : u.isDated = true) :
      (if t.isDated then some t else none) = some u := by
    rw [same]
    exact if_pos dated
  rw [text, read?_clock valid (by omega) (by omega) (by split <;> omega), ofParts?,
    if_pos (by split <;> omega), day]
  refine stays ?_ regular.dated
  unfold whole
  by_cases long : 1000000000 ≤ nanos
  · have last := leap long
    simp only [long, last, if_true]
    congr 1
    omega
  · have inside : s % 60 + 0 ≠ 60 := by omega
    simp only [long, inside, if_false]
    congr 1
    omega

end Instant

end PullSecrets
