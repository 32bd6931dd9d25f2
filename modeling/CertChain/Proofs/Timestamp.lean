import CertChain.Timestamp.Reader
import Mathlib.Algebra.Order.Ring.Nat
import Mathlib.Tactic.Ring

/-!
# Moments that are read are moments

A `Timestamp` may hold any numbers. Those that come out of a text are a day of the calendar, a time
of day and an offset that is shorter than a day (`Timestamp.IsMoment`), so a failure whose time was
read from a text is never shown with a day or an hour that there is not.

Two things bring this about. Most ranges are checked once all numbers are there, and
`Timestamp.fault?_eq_none_iff` says which ones. That of microseconds is not checked, and need not
be: they are spelled by six digits (`Timestamp.digits?_lt`), however much of the time of day is
written. `Timestamp.ofText_ok_iff` puts the two together.
-/

namespace CertChain

/-! ### Days and times of day -/

/-- **A day of the calendar**, in a year that has a name. -/
structure Day.InCalendar (day : Day) : Prop where
  year : 0 < day.year ∧ day.year ≤ 9999
  month : 0 < day.month ∧ day.month ≤ 12
  day : 0 < day.day ∧ day.day ≤ Der.daysInMonth day.year day.month

/-- **A time of day** that a clock can show. -/
structure Clock.OnDial (clock : Clock) : Prop where
  hour : clock.hour < 24
  minute : clock.minute < 60
  second : clock.second < 60

namespace Timestamp

/-- **A moment**: a day of the calendar, a time of day, and an offset shorter than a day. -/
structure IsMoment (t : Timestamp) : Prop where
  date : t.date.InCalendar
  clock : t.clock.OnDial
  microsecond : t.clock.microsecond < 1000000
  offset : ∀ span ∈ t.offset, span.natAbs < perDay.natAbs

variable {day : Day} {clock : Clock} {offset : Option Int}

/-! ### Ranges -/

/-- **The ranges that are checked** are all but that of the microseconds. -/
theorem fault?_eq_none_iff : fault? day clock offset = none
    ↔ day.InCalendar ∧ clock.OnDial ∧ ∀ span ∈ offset, span.natAbs < perDay.natAbs := by
  have hoffset : (offset.map Int.natAbs).any (fun n => perDay.natAbs ≤ n) = true
      ↔ ¬ ∀ span ∈ offset, span.natAbs < perDay.natAbs := by
    cases offset <;> simp
  constructor
  · intro h
    unfold fault? at h
    -- a range that is not kept ends in a fault, so all of them are kept where there is none
    split_ifs at h with hspan hyear hmonth hday hhour hminute hsecond
    rw [hoffset, not_not] at hspan
    exact ⟨⟨by omega, by omega, by omega⟩, ⟨by omega, by omega, by omega⟩, hspan⟩
  · rintro ⟨⟨hyear, hmonth, hday⟩, ⟨hhour, hminute, hsecond⟩, hspan⟩
    unfold fault?
    rw [if_neg (hoffset.not.mpr (not_not.mpr hspan)), if_neg (by omega), if_neg (by omega),
      if_neg (by omega), if_neg (by omega), if_neg (by omega), if_neg (by omega)]

/-- What is wrong with the numbers is a fault of the same kind in each case. -/
theorem kind_of_fault? {fault : Fault} (h : fault? day clock offset = some fault) :
    fault.head.kind = Fault.Kind.value := by
  unfold fault? at h
  split_ifs at h <;> cases h <;> rfl

/-! ### Microseconds -/

/-- Digits spell a number below the power of ten that belongs to their count. -/
theorem foldl_digits_lt (cs : List Char) (h : cs.all Char.isDigit = true) (n : Nat) :
    cs.foldl (fun n c => 10 * n + (c.toNat - 48)) n < (n + 1) * 10 ^ cs.length := by
  -- one digit after the other, with the number that has been read before it
  induction cs generalizing n with
  | nil => simp
  | cons c cs ih =>
    rw [List.all_cons, Bool.and_eq_true] at h
    have hdigit : c.toNat - 48 < 10 := by
      have hc := h.1
      simp only [Char.isDigit, Bool.and_eq_true, decide_eq_true_eq] at hc
      have htop : c.toNat ≤ 57 := UInt32.le_iff_toNat_le.mp hc.2
      omega
    rw [List.foldl_cons, List.length_cons]
    calc cs.foldl (fun n c => 10 * n + (c.toNat - 48)) (10 * n + (c.toNat - 48))
        < (10 * n + (c.toNat - 48) + 1) * 10 ^ cs.length := ih h.2 _
      _ ≤ (10 * n + 10) * 10 ^ cs.length := Nat.mul_le_mul_right _ (by omega)
      _ = (n + 1) * 10 ^ (cs.length + 1) := by ring

/-- A number of so many digits is below the power of ten that belongs to their count. -/
theorem digits?_lt {width n : Nat} {cs rest : List Char} (h : digits? width cs = some (n, rest)) :
    n < 10 ^ width := by
  simp only [digits?] at h
  split_ifs at h with htaken
  cases h
  have hlt := foldl_digits_lt _ htaken.2 0
  rwa [htaken.1, Nat.zero_add, Nat.one_mul] at hlt

/-- A fraction is a number of microseconds below a second. -/
theorem fraction?_lt {n : Nat} {cs rest : List Char} (h : fraction? cs = some (n, rest)) :
    n < 1000000 := by
  obtain ⟨⟨m, left⟩, hm, hsame⟩ := Option.bind_eq_some_iff.mp h
  cases hsame
  exact digits?_lt hm

/-- **A time of day has less than a second left over**, as far as it is written. -/
theorem microsecond_of_clockFrom (colons : Bool) (done : List Nat) (cs : List Char)
    {rest : List Char} (h : clockFrom colons done cs = some (clock, rest)) :
    clock.microsecond < 1000000 := by
  -- what stands behind the mark of a fraction is the last that is looked at
  have hfraction : ∀ {cs : List Char} {hour minute second : Nat},
      ((fraction? cs).bind fun found =>
        some ((⟨hour, minute, second, found.1⟩ : Clock), found.2)) = some (clock, rest) →
          clock.microsecond < 1000000 := by
    intro cs hour minute second h
    obtain ⟨⟨n, left⟩, hn, hclock⟩ := Option.bind_eq_some_iff.mp h
    cases hclock
    exact fraction?_lt hn
  revert h
  -- the microseconds are set where the time of day ends, and that may be in four places
  fun_induction clockFrom colons done cs with
  | case1 done finish =>
    intro h
    cases h
    exact Nat.zero_lt_succ _
  | case2 done finish c hascii =>
    intro h
    cases h
    exact Nat.zero_lt_succ _
  | case3 done c hascii =>
    intro h
    cases h
  | case4 done finish withFraction c more hmore hmark => exact hfraction
  | case5 done c more hmore hmark hcolon =>
    intro h
    cases h
  | case6 done finish withFraction c more hmore hmark hcolon hdone =>
    simp only [if_pos hdone]
    exact hfraction
  | case7 done finish withFraction c more hmore hmark hcolon hdone cs hdigits =>
    simp only [cs, dite_eq_ite] at hdigits
    simp only [if_neg hdone, hdigits]
    intro h
    cases h
  | case8 done finish withFraction c more hmore hmark hcolon hdone n left cs hdigits ih =>
    simp only [cs, dite_eq_ite] at hdigits
    simp only [if_neg hdone, hdigits]
    exact ih

/-- A time of day has less than a second left over. -/
theorem microsecond_of_clock? {cs rest : List Char} (h : clock? cs = some (clock, rest)) :
    clock.microsecond < 1000000 := by
  obtain ⟨⟨hour, left⟩, -, hclock⟩ := Option.bind_eq_some_iff.mp h
  exact microsecond_of_clockFrom _ _ _ hclock

/-- A time of day with an offset has less than a second left over. -/
theorem microsecond_of_clockAndOffset? {cs : List Char}
    (h : clockAndOffset? cs = some (clock, offset)) : clock.microsecond < 1000000 := by
  obtain ⟨⟨found, rest⟩, hclock, h⟩ := Option.bind_eq_some_iff.mp h
  simp only at h
  split_ifs at h with hleft
  · cases h
  · obtain ⟨zone, -, hsame⟩ := Option.bind_eq_some_iff.mp h
    cases hsame
    exact microsecond_of_clock? hclock

/-- A moment without a time of day is at midnight. -/
theorem microsecond_of_parts? {text : String} (h : parts? text = some (day, clock, offset)) :
    clock.microsecond < 1000000 := by
  simp only [parts?, Option.bind_eq_bind, Option.pure_def] at h
  -- where the day ends does not matter, nor which day it is
  generalize (if text.toList.length = 7 then 7 else dayLength text.toList) = length at h
  by_cases hshort : text.toList.length < 7
  · rw [if_pos hshort] at h
    cases h
  · rw [if_neg hshort] at h
    obtain ⟨found, -, h⟩ := Option.bind_eq_some_iff.mp h
    split_ifs at h with hleft
    · cases h
      decide
    · obtain ⟨⟨told, zone⟩, hclock, hsame⟩ := Option.bind_eq_some_iff.mp h
      cases hsame
      exact microsecond_of_clockAndOffset? hclock

/-! ### Texts -/

/-- **A text is read if it has the numbers of a moment**, and then those are what it is read as. -/
theorem ofText_ok_iff {text : String} {t : Timestamp} :
    ofText text = .ok t ↔ parts? text = some (t.date, t.clock, t.offset) ∧ t.IsMoment := by
  -- what is not checked is known from the text
  have hmoment : parts? text = some (t.date, t.clock, t.offset) →
      (t.IsMoment ↔ fault? t.date t.clock t.offset = none) := by
    intro h
    rw [fault?_eq_none_iff]
    constructor
    · rintro ⟨hdate, hclock, -, hoffset⟩
      exact ⟨hdate, hclock, hoffset⟩
    · rintro ⟨hdate, hclock, hoffset⟩
      exact ⟨hdate, hclock, microsecond_of_parts? h, hoffset⟩
  constructor
  · intro h
    unfold ofText at h
    split at h
    · cases h
    · rename_i day clock offset hparts
      split at h
      · cases h
      · cases h
        rename_i hfault
        exact ⟨hparts, (hmoment hparts).mpr hfault⟩
  · rintro ⟨hparts, h⟩
    unfold ofText
    simp only [hparts, (hmoment hparts).mp h]

/-- **A text that is not read** is told to be wrong by a fault of one kind, whatever is wrong. -/
theorem kind_of_ofText {text : String} {fault : Fault} (h : ofText text = .error fault) :
    fault.head.kind = Fault.Kind.value := by
  unfold ofText at h
  split at h
  · cases h
    rfl
  · split at h
    · rename_i hfault
      cases h
      exact kind_of_fault? hfault
    · cases h

end Timestamp
end CertChain
