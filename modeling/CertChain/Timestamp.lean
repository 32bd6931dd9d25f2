import CertChain.Der.Primitive

/-!
# Moments

A failure may record when it was noticed. A `Timestamp` is a day and a time of day down
to the microsecond, with the distance from universal time if that is known. It is shown
as the call that would build it (`Timestamp.shown`); `CertChain.Timestamp.Reader` reads
it from the usual written forms.
-/

namespace CertChain

/-- A day of the calendar. -/
structure Day where
  year : Nat
  month : Nat
  day : Nat
  deriving DecidableEq, Repr, Hashable

/-- A time of day. -/
structure Clock where
  hour : Nat
  minute : Nat
  second : Nat
  microsecond : Nat
  deriving DecidableEq, Repr, Hashable

/-- A moment. The offset is in microseconds, to the east. -/
structure Timestamp where
  date : Day
  clock : Clock
  offset : Option Int
  deriving DecidableEq, Repr, Hashable

namespace Clock

/-- Midnight. -/
def midnight : Clock := ⟨0, 0, 0, 0⟩

/-- The whole seconds since midnight. -/
def seconds (c : Clock) : Nat :=
  3600 * c.hour + 60 * c.minute + c.second

end Clock

namespace Timestamp

/-- The microseconds of a second. -/
def perSecond : Int := 1000000

/-- The microseconds of a day. -/
def perDay : Int := 86400 * perSecond

/-- A span of microseconds, as the call that would build it: days, which may be negative,
and what is left over of a day. -/
def shownSpan (span : Int) : String :=
  let rest := span.fmod perDay
  let part (name : String) (n : Int) : List String :=
    if n = 0 then [] else [name ++ "=" ++ toString n]
  let parts := part "days" (span.fdiv perDay) ++ part "seconds" (rest.fdiv perSecond)
    ++ part "microseconds" (rest.fmod perSecond)
  "datetime.timedelta(" ++ ", ".intercalate (if parts.isEmpty then ["0"] else parts) ++ ")"

/-- An offset, as the call that would build it. -/
def shownOffset (offset : Int) : String :=
  if offset = 0 then "datetime.timezone.utc"
  else "datetime.timezone(" ++ shownSpan offset ++ ")"

/-- **A moment, as the call that would build it.** Microseconds are left out when there
are none, and then seconds too. -/
def shown (t : Timestamp) : String :=
  let fine :=
    if t.clock.microsecond ≠ 0 then [t.clock.second, t.clock.microsecond]
    else if t.clock.second ≠ 0 then [t.clock.second]
    else []
  let numbers := [t.date.year, t.date.month, t.date.day, t.clock.hour, t.clock.minute] ++ fine
  let zone :=
    match t.offset with
    | none => []
    | some offset => ["tzinfo=" ++ shownOffset offset]
  "datetime.datetime(" ++ ", ".intercalate (numbers.map toString ++ zone) ++ ")"

end Timestamp
end CertChain
