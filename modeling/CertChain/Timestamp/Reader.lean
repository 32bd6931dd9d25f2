import CertChain.Fault
import CertChain.Timestamp

/-!
# Reading moments

A moment is written as a day, one character, and a time of day, which may be followed by
the distance from universal time. `Timestamp.ofText` reads the usual forms of it:

* a day by month and day or by week and weekday, with hyphens or without;
* a time of day down to whatever is written, with colons or without;
* `Z`, or a sign and again a time of day.

Where the day ends does not always show: of `2024-W01-03` it is taken that the last two
digits are the hour, and a day without hyphens is followed by an odd number of digits
exactly when the weekday is among them (`Timestamp.dayLength`).
-/

namespace CertChain
namespace Timestamp

/-! ### Faults -/

/-- The fault of a text that is no moment. -/
def malformed (text : String) : Fault :=
  .ofText Fault.Kind.value ("Invalid isoformat string: " ++ quoted text)

/-- The fault of a number that is out of its range. -/
def outOfRange (text : String) : Fault :=
  .ofText Fault.Kind.value text

/-! ### Days -/

/-- The days before a year, from the first of the first year on. -/
def daysBeforeYear (year : Nat) : Nat :=
  let past := year - 1
  365 * past + past / 4 - past / 100 + past / 400

/-- The days of a year. -/
def daysInYear (year : Nat) : Nat :=
  if Der.isLeapYear year then 366 else 365

/-- The weekday on which a year begins; Monday is 0. -/
def firstWeekday (year : Nat) : Nat :=
  daysBeforeYear year % 7

/-- The weeks of a year. A year has a fifty-third if it begins on a Thursday, or on a
Wednesday and has a day more. -/
def weeksInYear (year : Nat) : Nat :=
  if firstWeekday year = 3 ∨ (firstWeekday year = 2 ∧ Der.isLeapYear year) then 53 else 52

/-- Month and day of the day that is `n` days into the months from `month` on. -/
def intoMonths (year n : Nat) : List Nat → Nat × Nat
  | [] => (12, n + 1)
  | month :: rest =>
    if n < Der.daysInMonth year month then (month, n + 1)
    else intoMonths year (n - Der.daysInMonth year month) rest

/-- The day that is `n` days into a year. -/
def intoYear (year n : Nat) : Day :=
  let (month, day) := intoMonths year n (List.range' 1 12)
  ⟨year, month, day⟩

/-- The day of a week. The first week of a year is the one with its first Thursday, so it
may begin in the year before, and the last one may end in the year after. -/
def ofWeek (year week weekday : Nat) : Day :=
  let first := firstWeekday year
  let days := 7 * (week - 1) + (weekday - 1)
  if first ≤ 3 then
    if days < first then intoYear (year - 1) (daysInYear (year - 1) + days - first)
    else beyond (days - first)
  else beyond (days + 7 - first)
where
  /-- The day that is `n` days into the year or the one after. -/
  beyond (n : Nat) : Day :=
    if n < daysInYear year then intoYear year n
    else intoYear (year + 1) (n - daysInYear year)

/-! ### Characters -/

/-- The number that `width` digits at the front spell. -/
def digits? (width : Nat) (cs : List Char) : Option (Nat × List Char) :=
  let taken := cs.take width
  if taken.length = width ∧ taken.all Char.isDigit then
    some (taken.foldl (fun n c => 10 * n + (c.toNat - 48)) 0, cs.drop width)
  else none

/-- The input without `c` at its front. -/
def skip? (c : Char) : List Char → Option (List Char)
  | d :: rest => if d = c then some rest else none
  | [] => none

/-- **How many characters the day has** at the front of a moment. -/
def dayLength (cs : List Char) : Nat :=
  match cs.drop 4 with
  | '-' :: 'W' :: _ :: _ :: '-' :: _ :: d :: _ => if d.isDigit then 8 else 10
  | '-' :: 'W' :: _ :: _ :: '-' :: _ => 10
  | '-' :: 'W' :: _ => 8
  | '-' :: _ => 10
  | 'W' :: _ =>
    let reach := 7 + ((cs.drop 7).takeWhile Char.isDigit).length
    if reach < 9 then reach else if reach % 2 = 0 then 7 else 8
  | _ => 8

/-- A week and, if it is written, a weekday: the first one else. A week before the first
year is in no month. -/
def week? (year : Nat) (hyphens : Bool) (cs : List Char) : Option Day := do
  let (week, cs) ← digits? 2 cs
  let (weekday, _) ←
    if cs.isEmpty then some (1, cs)
    else digits? 1 (← if hyphens then skip? '-' cs else some cs)
  if week = 0 ∨ weeksInYear year < week ∨ weekday = 0 ∨ 7 < weekday then none
  return if year = 0 then ⟨1, 0, 0⟩ else ofWeek year week weekday

/-- The numbers of a day; whether there is such a day is not looked at. -/
def day? (cs : List Char) : Option Day := do
  let (year, cs) ← digits? 4 cs
  let hyphens := cs.head? = some '-'
  let cs := if hyphens then cs.tail else cs
  match skip? 'W' cs with
  | some cs => week? year hyphens cs
  | none =>
    let (month, cs) ← digits? 2 cs
    let (day, cs) ← digits? 2 (← if hyphens then skip? '-' cs else some cs)
    if cs.isEmpty then return ⟨year, month, day⟩ else none

/-! ### Times of day -/

/-- The microseconds that a fraction of a second spells, and what is left behind it. A
short fraction is filled up with zeros; digits beyond the sixth do not count. -/
def fraction? (cs : List Char) : Option (Nat × List Char) := do
  let (n, _) ← digits? 6 (cs.take 6 ++ List.replicate (6 - cs.length) '0')
  return (n, (cs.drop 6).dropWhile Char.isDigit)

/-- A time of day as far as it is written, after `done` of its three numbers, and what is
left behind it. One ASCII character at the end that fits nothing is left. -/
def clockFrom (colons : Bool) (done : List Nat) (cs : List Char) : Option (Clock × List Char) :=
  let finish (microsecond : Nat) (rest : List Char) : Option (Clock × List Char) :=
    some (⟨done.getD 0 0, done.getD 1 0, done.getD 2 0, microsecond⟩, rest)
  let withFraction (cs : List Char) : Option (Clock × List Char) := do
    let (n, rest) ← fraction? cs
    finish n rest
  match cs with
  | [] => finish 0 []
  | [c] => if c.toNat < 0x80 then finish 0 [c] else none
  | c :: rest =>
    if c = '.' ∨ c = ',' then withFraction rest
    else if colons ∧ c ≠ ':' then none
    else
      let cs := if colons then rest else cs
      if 3 ≤ done.length then withFraction cs
      else
        match digits? 2 cs with
        | none => none
        | some (n, rest) => clockFrom colons (done ++ [n]) rest
termination_by 3 - done.length
decreasing_by
  simp only [List.length_append, List.length_singleton]
  omega

/-- **A time of day**, and what is left behind it. The first mark says whether there are
colons. -/
def clock? (cs : List Char) : Option (Clock × List Char) := do
  let (hour, cs) ← digits? 2 cs
  clockFrom (cs.head? = some ':') [hour] cs

/-- Whether the offset begins with a character. -/
def isOffsetMark (c : Char) : Bool :=
  c == '+' || c == '-' || c == 'Z'

/-- The offset that stands at the end of a moment. One that has no whole seconds is
none. -/
def offset? : List Char → Option (Option Int)
  | [] => some none
  | ['Z'] => some (some 0)
  | sign :: cs => do
    let (clock, rest) ← clock? cs
    if sign = 'Z' ∨ ¬ rest.isEmpty then none
    let span : Int :=
      if clock.seconds = 0 then 0 else clock.seconds * perSecond + clock.microsecond
    return some (if sign = '-' then -span else span)

/-- Time of day and offset. What is left between the two is passed over; without an
offset nothing may be left. -/
def clockAndOffset? (cs : List Char) : Option (Clock × Option Int) := do
  let (clock, rest) ← clock? (cs.takeWhile fun c => !isOffsetMark c)
  let zone := cs.dropWhile fun c => !isOffsetMark c
  if zone.isEmpty ∧ ¬ rest.isEmpty then none
  return (clock, ← offset? zone)

/-! ### Moments -/

/-- The numbers of a moment: day, time of day and offset. -/
def parts? (text : String) : Option (Day × Clock × Option Int) := do
  let cs := text.toList
  if cs.length < 7 then none
  let length := if cs.length = 7 then 7 else dayLength cs
  let day ← day? (cs.take length)
  let cs := cs.drop length
  if cs.isEmpty then return (day, Clock.midnight, none)
  let (clock, offset) ← clockAndOffset? cs.tail
  return (day, clock, offset)

/-- What is wrong with the numbers of a moment. -/
def fault? (day : Day) (clock : Clock) (offset : Option Int) : Option Fault :=
  if (offset.map Int.natAbs).any fun n => perDay.natAbs ≤ n then
    some (outOfRange ("offset must be a timedelta strictly between -timedelta(hours=24) and "
      ++ "timedelta(hours=24), not " ++ shownSpan (offset.getD 0) ++ "."))
  else if day.year = 0 ∨ 9999 < day.year then
    some (outOfRange ("year " ++ toString day.year ++ " is out of range"))
  else if day.month = 0 ∨ 12 < day.month then
    some (outOfRange "month must be in 1..12")
  else if day.day = 0 ∨ Der.daysInMonth day.year day.month < day.day then
    some (outOfRange "day is out of range for month")
  else if 24 ≤ clock.hour then some (outOfRange "hour must be in 0..23")
  else if 60 ≤ clock.minute then some (outOfRange "minute must be in 0..59")
  else if 60 ≤ clock.second then some (outOfRange "second must be in 0..59")
  else none

/-- **Reads a moment.** -/
def ofText (text : String) : Except Fault Timestamp :=
  match parts? text with
  | none => .error (malformed text)
  | some (day, clock, offset) =>
    match fault? day clock offset with
    | some fault => .error fault
    | none => .ok ⟨day, clock, offset⟩

end Timestamp
end CertChain
