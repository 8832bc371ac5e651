import AgentFacts.Time.Rfc3339
import AgentFacts.Proofs.CalendarDates
import Mathlib.Data.List.Basic
import Mathlib.Data.String.Basic

namespace AgentFacts.Rfc3339

open Instant (padded)

variable {α β : Type} {r : Reader α} {f : α → Reader β} {cs rest : List Char} {a : α} {n : Nat}

/-- Reading goes on where the first part of it has stopped. -/
theorem bind_step (h : r cs = .ok (a, rest)) : (r >>= f) cs = f a rest := by
  show (r cs >>= fun p => f p.1 p.2) = f a rest
  rw [h]
  rfl

theorem bind_inv {b : β} (h : (r >>= f) cs = .ok (b, rest)) :
    ∃ a mid, r cs = .ok (a, mid) ∧ f a mid = .ok (b, rest) := by
  change (r cs >>= fun p => f p.1 p.2) = .ok (b, rest) at h
  cases first : r cs with
  | error fault => rw [first] at h; cases h
  | ok p => rw [first] at h; exact ⟨p.1, p.2, rfl, h⟩

theorem get_step (f : List Char → Reader β) (cs : List Char) : (get >>= f) cs = f cs cs :=
  rfl

theorem set_step (f : PUnit → Reader β) (after cs : List Char) :
    (set after >>= f) cs = f () after :=
  rfl

theorem digit?_eq_some {c : Char} (h : c.isDigit = true) :
    digit? c = some (c.toNat - '0'.toNat) := by
  simp only [Char.isDigit, ge_iff_le, Bool.and_eq_true, decide_eq_true_eq] at h
  exact if_pos h

/-- Where a run of digits ends: at the end of the text, or before something else. -/
def Stops : List Char → Prop
  | [] => True
  | c :: _ => digit? c = none

/-- Digits that say a number. -/
structure Spells (ds : List Char) (n : Nat) : Prop where
  nonempty : ds ≠ []
  digit : ∀ c ∈ ds, c.isDigit = true
  value : Nat.ofDigitChars 10 ds 0 = n

theorem digits_nil (most acc : Nat) : digits most acc [] = (acc, []) := by
  cases most <;> rfl

theorem digits_stop {most : Nat} (acc : Nat) (stop : most = 0 ∨ Stops cs) :
    digits most acc cs = (acc, cs) := by
  cases cs with
  | nil => exact digits_nil most acc
  | cons c cs =>
    rcases stop with rfl | stop
    · rfl
    · unfold digits
      rw [show digit? c = none from stop]
      cases most <;> rfl

theorem digits_cons {c : Char} (most acc : Nat) (digit : c.isDigit = true) :
    digits (most + 1) acc (c :: cs) = digits most (10 * acc + (c.toNat - '0'.toNat)) cs := by
  conv_lhs => unfold digits
  rw [digit?_eq_some digit, Nat.mul_comm]

/-- Digits are read to their end, which is where no more are allowed or none is left. -/
theorem digits_append {ds : List Char} {most acc : Nat} (digit : ∀ c ∈ ds, c.isDigit = true)
    (fits : ds.length ≤ most) (stop : ds.length = most ∨ Stops rest) :
    digits most acc (ds ++ rest) = (Nat.ofDigitChars 10 ds acc, rest) := by
  induction ds generalizing most acc with
  | nil => exact digits_stop acc (stop.imp Eq.symm id)
  | cons c ds ih =>
    obtain ⟨most, rfl⟩ : ∃ m, most = m + 1 := ⟨most - 1, by simp at fits; omega⟩
    rw [List.cons_append, digits_cons most acc (digit c (by simp)), Nat.ofDigitChars_cons]
    exact ih (fun d mem => digit d (by simp [mem])) (by simpa using fits) (by simpa using stop)

theorem number_cons (most : Nat) (c : Char) (cs : List Char) : number most (c :: cs) =
    if (digit? c).isNone then .error .invalid else .ok (digits most 0 (c :: cs)) := by
  unfold number
  rw [get_step]
  cases h : digit? c <;> simp only [h] <;> rfl

theorem number_of_spells {ds : List Char} {most : Nat} (spelt : Spells ds n)
    (fits : ds.length ≤ most) (stop : ds.length = most ∨ Stops rest) :
    number most (ds ++ rest) = .ok (n, rest) := by
  obtain ⟨nonempty, digit, value⟩ := spelt
  cases ds with
  | nil => exact absurd rfl nonempty
  | cons c ds =>
    rw [List.cons_append, number_cons, digit?_eq_some (digit c (by simp)), ← List.cons_append,
      digits_append digit fits stop, value]
    rfl

theorem digit?_lt {c : Char} {d : Nat} (h : digit? c = some d) : d < 10 := by
  simp only [digit?] at h
  split at h
  · next range =>
    have high : c.toNat ≤ 57 := range.2
    have zero : '0'.toNat = 48 := rfl
    cases h
    omega
  · cases h

/-- What a number that was read is made of: its digits are gone, and no more than allowed. -/
theorem digits_lt {most acc : Nat} {after : List Char} (h : digits most acc cs = (n, after)) :
    ∃ k ≤ most, cs.length = after.length + k ∧ n < (acc + 1) * 10 ^ k := by
  induction cs generalizing most acc with
  | nil =>
    rw [digits_nil] at h
    cases h
    exact ⟨0, Nat.zero_le _, rfl, by simp⟩
  | cons c cs ih =>
    unfold digits at h
    split at h
    · next m d found =>
      obtain ⟨k, fits, length, below⟩ := ih h
      have small := digit?_lt found
      refine ⟨k + 1, by omega, by simp [length]; omega, below.trans_le ?_⟩
      rw [Nat.pow_succ, Nat.mul_comm (10 ^ k) 10, ← Nat.mul_assoc]
      exact Nat.mul_le_mul_right _ (by omega)
    · cases h
      exact ⟨0, Nat.zero_le _, rfl, by simp⟩

theorem padded_spells (width n : Nat) : Spells (padded width n).toList n where
  nonempty := by
    have := Nat.length_toDigits_pos (b := 10) (n := n)
    intro none
    simp [padded] at none
  digit c mem := by
    simp only [padded, String.toList_ofList, List.mem_append, List.mem_replicate] at mem
    rcases mem with ⟨-, rfl⟩ | mem
    · rfl
    · exact Nat.isDigit_of_mem_toDigits (by omega) (by omega) mem
  value := by
    simp [padded, Nat.ofDigitChars_append, Nat.ofDigitChars_replicate_zero,
      Nat.ofDigitChars_ten_toDigits]

theorem padded_length (width n : Nat) (pos : 0 < width) (h : n < 10 ^ width) :
    (padded width n).toList.length = width := by
  have := (Nat.length_toDigits_le_iff (b := 10) (by omega) pos).2 h
  simp [padded]
  omega

theorem skipBlanks_of_not_blank {c : Char} (h : Text.isBlank c = false) :
    skipBlanks (c :: cs) = .ok ((), c :: cs) :=
  congrArg (fun cs => Except.ok ((), cs)) (Text.trimStart_eq_self h)

theorem isBlank_digit {c : Char} (h : c.isDigit = true) : Text.isBlank c = false := by
  obtain ⟨low, high⟩ := Char.isDigit_iff_toNat.1 h
  have zero : '0'.toNat = 48 := rfl
  have nine : '9'.toNat = 57 := rfl
  simp only [Text.isBlank, Bool.or_eq_false_iff, Bool.and_eq_false_iff, decide_eq_false_iff_not,
    beq_eq_false_iff_ne]
  omega

theorem skipBlanks_spells {ds : List Char} (spelt : Spells ds n) :
    skipBlanks (ds ++ rest) = .ok ((), ds ++ rest) := by
  obtain ⟨nonempty, digit, -⟩ := spelt
  cases ds with
  | nil => exact absurd rfl nonempty
  | cons c ds => exact skipBlanks_of_not_blank (isBlank_digit (digit c (by simp)))

theorem mark_self {c : Char} (h : Text.isBlank c = false) :
    mark c (c :: rest) = .ok ((), rest) := by
  unfold mark
  rw [bind_step (skipBlanks_of_not_blank h), get_step]
  show (if c = c then set rest else throw .invalid : Reader PUnit) (c :: rest) = _
  rw [if_pos rfl]
  rfl

/-- Two digits are read to the end, whatever follows. -/
theorem field_padded {low high : Nat} (width : n < 100) (least : low ≤ n) (most : n ≤ high) :
    field 2 low high ((padded 2 n).toList ++ rest) = .ok (n, rest) := by
  have spelt := padded_spells 2 n
  have length := padded_length 2 n (by omega) width
  unfold field
  rw [bind_step (skipBlanks_spells spelt),
    bind_step (number_of_spells spelt length.le (.inl length)), if_pos ⟨least, most⟩]
  rfl

theorem wholeNumber_spells {ds : List Char} (spelt : Spells ds n) (stop : Stops rest) :
    wholeNumber (ds ++ rest) = .ok (n, rest) := by
  unfold wholeNumber
  rw [get_step]
  exact number_of_spells spelt (by simp) (.inr stop)

/-- What a year has to pass once its number is read. -/
def inYears (y : Int) : Reader Int :=
  if -2147483648 ≤ y ∧ y ≤ 2147483647 then return y else throw .outOfRange

theorem year_minus (cs : List Char) :
    year ('-' :: cs) = (wholeNumber >>= fun n => inYears (-n)) cs :=
  rfl

theorem year_plus (cs : List Char) :
    year ('+' :: cs) = (wholeNumber >>= fun n => inYears n) cs := by
  show ((wholeNumber >>= fun n => pure (n : Int)) >>= inYears) cs = _
  rw [bind_assoc]
  rfl

theorem year_digit {c : Char} (digit : c.isDigit = true) (cs : List Char) :
    year (c :: cs) = (number 4 >>= fun n => inYears n) (c :: cs) := by
  unfold year
  rw [bind_step (skipBlanks_of_not_blank (isBlank_digit digit)), get_step]
  -- a digit is neither of the signs
  generalize same : c :: cs = text
  split
  · cases same
    cases digit
  · cases same
    cases digit
  · show ((number 4 >>= fun n => pure (n : Int)) >>= inYears) text = _
    rw [bind_assoc]
    rfl

theorem year_text {y : Int} (low : firstYear ≤ y) (high : y ≤ lastYear) (stop : Stops rest) :
    year ((Instant.yearText y).toList ++ rest) = .ok (y, rest) := by
  simp only [firstYear, lastYear] at low high
  have inRange : inYears y rest = .ok (y, rest) := by
    rw [inYears, if_pos (by omega)]
    rfl
  simp only [Instant.yearText, Bool.and_eq_true, decide_eq_true_eq]
  split
  · next four =>
    have spelt := padded_spells 4 y.toNat
    have length := padded_length 4 y.toNat (by omega) (by omega)
    have unsigned : number 4 ((padded 4 y.toNat).toList ++ rest) = .ok (y.toNat, rest) :=
      number_of_spells spelt length.le (.inl length)
    obtain ⟨c, ds, same⟩ := List.exists_cons_of_ne_nil spelt.nonempty
    rw [same] at unsigned ⊢
    rw [List.cons_append, year_digit (spelt.digit c (by simp [same])), ← List.cons_append,
      bind_step unsigned, Int.toNat_of_nonneg four.1, inRange]
  · have whole := wholeNumber_spells (padded_spells 4 y.natAbs) stop
    rw [String.toList_append, List.append_assoc]
    split
    · next negative =>
      have minus : "-".toList = ['-'] := rfl
      have signed : -(y.natAbs : Int) = y := by omega
      rw [minus, List.cons_append, List.nil_append, year_minus, bind_step whole, signed, inRange]
    · next positive =>
      have plus : "+".toList = ['+'] := rfl
      have signed : (y.natAbs : Int) = y := by omega
      rw [plus, List.cons_append, List.nil_append, year_plus, bind_step whole, signed, inRange]

theorem Stops.dropWhile_eq (stop : Stops rest) :
    rest.dropWhile (fun c => (digit? c).isSome) = rest := by
  cases rest with
  | nil => rfl
  | cons c rest => simp [show digit? c = none from stop]

theorem fraction_padded {width : Nat} (pos : 0 < width) (fits : width ≤ 9) (below : n < 10 ^ width)
    (stop : Stops rest) :
    fraction ('.' :: ((padded width n).toList ++ rest)) =
      .ok (n * Nat.pow 10 (9 - width), rest) := by
  have length := padded_length width n pos below
  have read := number_of_spells (padded_spells width n) (by omega : _ ≤ 9) (.inr stop)
  unfold fraction
  rw [get_step]
  show (set ((padded width n).toList ++ rest) >>= fun _ => _ : Reader Nat) _ = _
  rw [set_step, bind_step read, get_step, set_step, stop.dropWhile_eq, List.length_append,
    Nat.add_sub_cancel, length]
  rfl

theorem fraction_none (noPoint : rest.head? ≠ some '.') : fraction rest = .ok (0, rest) := by
  unfold fraction
  rw [get_step]
  split
  · exact absurd rfl noPoint
  · rfl

theorem fraction_text (below : n < 1000000000) (stop : Stops rest)
    (noPoint : rest.head? ≠ some '.') :
    fraction ((Instant.fractionText n).toList ++ rest) = .ok (n, rest) := by
  -- the point, then so many digits that a number of nanoseconds is whole in their unit
  have pointed (width unit : Nat) (unit_eq : Nat.pow 10 (9 - width) = unit) (pos : 0 < width)
      (fits : width ≤ 9) (below : n / unit < 10 ^ width) (whole : n / unit * unit = n) :
      fraction (("." ++ padded width (n / unit)).toList ++ rest) = .ok (n, rest) := by
    have point : ".".toList = ['.'] := rfl
    rw [String.toList_append, List.append_assoc, point, List.cons_append, List.nil_append,
      fraction_padded pos fits below stop, unit_eq, whole]
  unfold Instant.fractionText
  split
  · next zero =>
    subst zero
    exact fraction_none noPoint
  · split
    · next millis => exact pointed 3 1000000 rfl (by omega) (by omega) (by omega) (by omega)
    · split
      · next micros => exact pointed 6 1000 rfl (by omega) (by omega) (by omega) (by omega)
      · have read := pointed 9 1 rfl (by omega) (by omega) (by omega) (by omega)
        rwa [Nat.div_one] at read

theorem separator_self (rest : List Char) : separator ('T' :: rest) = .ok ((), rest) :=
  rfl

theorem date_text {d : Calendar.Date} (found : d.Exists) (low : firstYear ≤ d.year)
    (high : d.year ≤ lastYear) (rest : List Char) :
    date ((Instant.yearText d.year ++ "-" ++ padded 2 d.month ++ "-" ++ padded 2 d.day).toList ++
      rest) = .ok ((d.year, d.month, d.day), rest) := by
  obtain ⟨month_pos, month_le, day_pos, day_le⟩ := found
  have day_le : d.day ≤ 31 := day_le.trans (Calendar.daysInMonth_le _ _)
  have dash : "-".toList = ['-'] := rfl
  simp only [String.toList_append, List.append_assoc, dash, List.cons_append, List.nil_append]
  unfold date
  rw [bind_step (year_text low high (show Stops ('-' :: _) from rfl)),
    bind_step (mark_self (by decide)),
    bind_step (field_padded (by omega) month_pos month_le),
    bind_step (mark_self (by decide)),
    bind_step (field_padded (by omega) day_pos day_le)]
  rfl

theorem time_text {h m s : Nat} (hour : h ≤ 23) (minute : m ≤ 59) (second : s ≤ 60)
    (nano : n < 1000000000) (stop : Stops rest) (noPoint : rest.head? ≠ some '.') :
    time ((padded 2 h ++ ":" ++ padded 2 m ++ ":" ++ padded 2 s ++
      Instant.fractionText n).toList ++ rest) = .ok (⟨h, m, s, n⟩, rest) := by
  have colon : ":".toList = [':'] := rfl
  simp only [String.toList_append, List.append_assoc, colon, List.cons_append, List.nil_append]
  unfold time
  rw [bind_step (field_padded (by omega) (Nat.zero_le _) hour),
    bind_step (mark_self (by decide)),
    bind_step (field_padded (by omega) (Nat.zero_le _) minute),
    bind_step (mark_self (by decide)),
    bind_step (field_padded (by omega) (Nat.zero_le _) second),
    bind_step (fraction_text nano stop noPoint)]
  rfl

end AgentFacts.Rfc3339

namespace AgentFacts

/-- What a reader makes sure of: a second within the years that have dates, and less than a second
after it, or less than two where a leap second may come: after the last second of a minute. -/
structure Instant.Dated (i : Instant) : Prop where
  first : Rfc3339.firstSecond ≤ i.second
  last : i.second ≤ Rfc3339.lastSecond
  nano : i.nano < 1000000000 ∨ i.nano < 2000000000 ∧ i.second % 60 = 59

namespace Rfc3339

open Instant (padded)

variable {i : Instant}

/-- The date that an instant shows. -/
def dateOf (i : Instant) : Calendar.Date :=
  Calendar.dateOf (i.second / 86400)

/-- The time of day that an instant shows. -/
def timeOf (i : Instant) : Time :=
  let second := (i.second % 86400).toNat
  if 1000000000 ≤ i.nano then
    ⟨second / 3600, second / 60 % 60, second % 60 + 1, i.nano - 1000000000⟩
  else ⟨second / 3600, second / 60 % 60, second % 60, i.nano⟩

theorem text_eq (i : Instant) :
    i.text = (Instant.yearText (dateOf i).year ++ "-" ++ padded 2 (dateOf i).month ++ "-" ++
        padded 2 (dateOf i).day) ++ "T" ++
      (padded 2 (timeOf i).hour ++ ":" ++ padded 2 (timeOf i).minute ++ ":" ++
        padded 2 (timeOf i).second ++ Instant.fractionText (timeOf i).nano) ++ "Z" := by
  simp only [Instant.text, Instant.dayAndSecond, dateOf, timeOf]
  split <;> simp [String.append_assoc]

theorem dateOf_exists (i : Instant) : (dateOf i).Exists :=
  (Calendar.dateOf_spec _).1

theorem dayOf_dateOf (i : Instant) : Calendar.dayOf (dateOf i) = i.second / 86400 :=
  (Calendar.dateOf_spec _).2.2

/-- The seconds that have dates begin and end with a year. -/
theorem dateOf_bounds (dated : i.Dated) :
    firstYear ≤ (dateOf i).year ∧ (dateOf i).year ≤ lastYear := by
  obtain ⟨-, inYear, -⟩ := Calendar.dateOf_spec (i.second / 86400)
  have first := dated.first
  have last := dated.last
  simp only [firstSecond, lastSecond, Calendar.dayOf_newYear] at first last
  have notBefore := inYear.le (show Calendar.daysBeforeYear firstYear ≤ _ by omega)
  have notAfter := inYear.lt (show _ < Calendar.daysBeforeYear (lastYear + 1) by omega)
  exact ⟨notBefore, Int.le_of_lt_add_one notAfter⟩

theorem timeOf_bounds (dated : i.Dated) :
    (timeOf i).hour ≤ 23 ∧ (timeOf i).minute ≤ 59 ∧ (timeOf i).second ≤ 60 ∧
      (timeOf i).nano < 1000000000 := by
  have nano := dated.nano
  unfold timeOf
  split <;> simp only <;> omega

/-- The sixtieth second is shown for a leap second, and the nanoseconds start again with it. -/
theorem timeOf_second (dated : i.Dated) :
    (timeOf i).hour * 3600 + (timeOf i).minute * 60 +
        (if (timeOf i).second = 60 then 59 else (timeOf i).second) = (i.second % 86400).toNat ∧
      (timeOf i).nano + (if (timeOf i).second = 60 then 1000000000 else 0) = i.nano := by
  have nano := dated.nano
  unfold timeOf
  split <;> simp only <;> split <;> omega

/-- The text is read as the date and the time that it was made of, at no distance from universal
time. -/
theorem zoned_text (dated : i.Dated) : zoned i.text.toList =
    .ok ((((dateOf i).year, (dateOf i).month, (dateOf i).day), timeOf i, 0), []) := by
  obtain ⟨low, high⟩ := dateOf_bounds dated
  obtain ⟨hour, minute, second, nano⟩ := timeOf_bounds dated
  have separated : "T".toList = ['T'] := rfl
  have universal : "Z".toList = ['Z'] := rfl
  have zone : offset ['Z'] = .ok (0, []) := rfl
  rw [text_eq, String.toList_append, String.toList_append, String.toList_append, separated,
    universal, List.append_assoc, List.append_assoc]
  have day := date_text (dateOf_exists i) low high
  have time := time_text hour minute second nano (show Stops ['Z'] from rfl) (by simp)
  unfold zoned
  rw [bind_step (day _), List.cons_append, List.nil_append, bind_step (separator_self _),
    bind_step time, bind_step zone]
  rfl

/-- The date and the time that an instant shows are those of no other. -/
theorem instant_shown (dated : i.Dated) :
    instant ((dateOf i).year, (dateOf i).month, (dateOf i).day) (timeOf i) 0 = .ok i := by
  obtain ⟨low, high⟩ := dateOf_bounds dated
  obtain ⟨clock, nano⟩ := timeOf_second dated
  have date : ¬ ((dateOf i).year < firstYear ∨ lastYear < (dateOf i).year ∨
      Calendar.daysInMonth (dateOf i).year (dateOf i).month < (dateOf i).day) := by
    have := (dateOf_exists i).day_le
    omega
  have second : Calendar.dayOf (dateOf i) * 86400 +
      ((timeOf i).hour * 3600 + (timeOf i).minute * 60 : Nat) +
      (if (timeOf i).second = 60 then 59 else (timeOf i).second : Nat) - 0 = i.second := by
    have := dayOf_dateOf i
    omega
  have range : ¬ (i.second < firstSecond ∨ lastSecond < i.second) := by
    have := dated.first
    have := dated.last
    omega
  simp only [instant, if_neg date]
  rw [if_neg (by decide), second, if_neg range, nano]

theorem parse_text (dated : i.Dated) : parse i.text = .ok i := by
  unfold parse
  rw [zoned_text dated]
  exact instant_shown dated

theorem number_lt {most : Nat} (h : number most cs = .ok (n, rest)) :
    ∃ k ≤ most, cs.length = rest.length + k ∧ n < 10 ^ k := by
  cases cs with
  | nil => cases h
  | cons c cs =>
    rw [number_cons] at h
    split at h
    · cases h
    · simpa using digits_lt (Except.ok.inj h)

theorem fraction_lt (h : fraction cs = .ok (n, rest)) : n < 1000000000 := by
  unfold fraction at h
  rw [get_step] at h
  split at h
  · next digits =>
    rw [set_step] at h
    obtain ⟨m, mid, read, h⟩ := bind_inv h
    obtain ⟨k, most, length, below⟩ := number_lt read
    cases h
    rw [show digits.length - mid.length = k by omega]
    calc m * 10 ^ (9 - k) < 10 ^ k * 10 ^ (9 - k) :=
          Nat.mul_lt_mul_of_pos_right below (Nat.pow_pos (by decide))
      _ = 1000000000 := by rw [← Nat.pow_add, Nat.add_sub_cancel' most]
  · cases h
    decide

theorem time_nano_lt {t : Time} (h : time cs = .ok (t, rest)) : t.nano < 1000000000 := by
  obtain ⟨hour, mid, -, h⟩ := bind_inv h
  obtain ⟨-, mid, -, h⟩ := bind_inv h
  obtain ⟨minute, mid, -, h⟩ := bind_inv h
  obtain ⟨-, mid, -, h⟩ := bind_inv h
  obtain ⟨second, mid, -, h⟩ := bind_inv h
  obtain ⟨nano, mid, read, h⟩ := bind_inv h
  cases h
  exact fraction_lt read

theorem hoursAndMinutes_minutes (h : hoursAndMinutes cs = .ok (n, rest)) : n % 60 = 0 := by
  obtain ⟨hours, mid, -, h⟩ := bind_inv h
  obtain ⟨-, mid, -, h⟩ := bind_inv h
  obtain ⟨⟨m, m'⟩, mid, -, h⟩ := bind_inv h
  dsimp only at h
  split at h
  · cases h
  · cases h
    omega

theorem offset_minutes {east : Int} (h : offset cs = .ok (east, rest)) : east % 60 = 0 := by
  obtain ⟨-, mid, -, h⟩ := bind_inv h
  rw [get_step] at h
  split at h
  · cases h
    rfl
  · split at h
    · cases h
    · rw [set_step] at h
      split at h
      · cases h
        rfl
      · split at h
        · obtain ⟨n, after, read, h⟩ := bind_inv h
          have := hoursAndMinutes_minutes read
          cases h
          omega
        · split at h
          · obtain ⟨n, after, read, h⟩ := bind_inv h
            have := hoursAndMinutes_minutes read
            cases h
            omega
          · cases h

theorem dated_of_instant {day : Int × Nat × Nat} {t : Time} {east : Int}
    (nano : t.nano < 1000000000) (minutes : east % 60 = 0) (h : instant day t east = .ok i) :
    i.Dated := by
  simp only [instant] at h
  split at h
  · cases h
  · split at h
    · cases h
    · -- the sixtieth second of a minute is kept as its last one
      split at h
      · split at h
        · cases h
        · next range =>
          cases h
          exact ⟨by simp only; omega, by simp only; omega, .inr (by simp only; omega)⟩
      · split at h
        · cases h
        · next range =>
          cases h
          exact ⟨by simp only; omega, by simp only; omega, .inl (by simp only; omega)⟩

theorem dated_of_parse {s : String} (h : parse s = .ok i) : i.Dated := by
  unfold parse at h
  cases read : zoned s.toList with
  | error fault => rw [read] at h; cases h
  | ok p =>
    obtain ⟨⟨day, t, east⟩, rest⟩ := p
    rw [read] at h
    obtain ⟨day', mid, -, read⟩ := bind_inv read
    obtain ⟨-, mid, -, read⟩ := bind_inv read
    obtain ⟨t', mid, time_read, read⟩ := bind_inv read
    obtain ⟨east', mid, offset_read, read⟩ := bind_inv read
    obtain ⟨-, mid, -, read⟩ := bind_inv read
    rw [get_step] at read
    split at read
    · cases read
      exact dated_of_instant (time_nano_lt time_read) (offset_minutes offset_read) h
    · cases read

end Rfc3339

end AgentFacts
