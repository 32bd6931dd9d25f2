import CertChain.Outcome

/-!
# Values of any kind

Where it is not known beforehand what an outcome carries, it carries a `Value`: a plain
datum, a list, an outcome again, or the description of a failure. There is one more
value, `unformed`, which is an outcome in name only: it is on neither track.

This file has what can be asked of any value. `Value.shown` writes it, `Value.same`
compares two of them, `Value.hashed` gives a number that is the same for values that
are the same. Then follow the operations of outcomes: on a value that is an outcome
they are those of `Outcome`, on an unformed one nearly all are a fault, and on any
other value all of them are.

A truth value is the same as the number 0 or 1. Of two failures only code and message
are compared. A description of a failure is a plain record and is compared in full, with
its fault and its time.
-/

namespace CertChain

/-- A value of any kind. -/
inductive Value where
  | null
  | bool (b : Bool)
  | int (n : Int)
  | text (s : String)
  | list (items : List Value)
  | success (value : Value)
  | failure (reason : Failure)
  | description (reason : Failure)
  | unformed
  deriving Repr, Inhabited

namespace Value

/-- The one value that stands for none. -/
def isNull : Value → Bool
  | .null => true
  | _ => false

instance : HasNull Value := ⟨isNull⟩

/-- An outcome as a value. -/
def ofOutcome : Outcome Value → Value
  | .ok value => .success value
  | .error reason => .failure reason

mutual

/-- A plain datum as a value. -/
def ofDatum : Datum → Value
  | .null => .null
  | .bool b => .bool b
  | .int n => .int n
  | .text s => .text s
  | .list items => .list (ofData items)

/-- Plain data as values. -/
def ofData : List Datum → List Value
  | [] => []
  | d :: rest => ofDatum d :: ofData rest

end

/-- The name of a value's kind. -/
def kindName : Value → String
  | .null => "NoneType"
  | .bool _ => "bool"
  | .int _ => "int"
  | .text _ => "str"
  | .list _ => "list"
  | .success _ => "Success"
  | .failure _ => "Failure"
  | .description _ => "FailureDescription"
  | .unformed => "Result"

/-! ### Text -/

/-- The fault of an operation on an unformed value. -/
def unreachable : Fault :=
  .ofText Fault.Kind.type "unreachable"

/-- A failure as it is shown: code and message. -/
def shownFailure (f : Failure) : String :=
  "Failure(" ++ f.code.name ++ ": " ++ quoted f.message ++ ")"

mutual

/-- **A value as text.** An unformed value has none, and nor has a number with too many
digits. -/
def shown : Value → Except Fault String
  | .null => .ok nullText
  | .bool b => .ok (truthText b)
  | .int n => Fault.written (numeral? n)
  | .text s => .ok (quoted s)
  | .list items => do return bracketed (← shownAll items)
  | .success value => do return "Success(" ++ (← shown value) ++ ")"
  | .failure f => .ok (shownFailure f)
  | .description f => .ok f.shown
  | .unformed => .error unreachable

/-- Values as texts. -/
def shownAll : List Value → Except Fault (List String)
  | [] => .ok []
  | v :: rest => do return (← shown v) :: (← shownAll rest)

end

/-- An outcome as text, asked of the outcome in general: only the two tracks have one. -/
def shownOutcome : Value → Except Fault String
  | .success value => (Value.success value).shown
  | .failure f => .ok (shownFailure f)
  | _ => .error unreachable

/-- A value as text, a text itself without quotes. -/
def plain : Value → Except Fault String
  | .text s => .ok s
  | v => v.shown

/-! ### Sameness -/

mutual

/-- **Whether two values are the same.** An unformed value is the same as none, itself
included. -/
def same : Value → Value → Bool
  | .null, .null => true
  | .bool a, .bool b => a == b
  | .bool a, .int n => (a.toNat : Int) == n
  | .int n, .bool a => n == (a.toNat : Int)
  | .int a, .int b => a == b
  | .text a, .text b => a == b
  | .list xs, .list ys => sameAll xs ys
  | .success a, .success b => same a b
  | .failure f, .failure g => f.agrees g
  | .description f, .description g => f == g
  | _, _ => false

/-- Whether two lists have the same values. -/
def sameAll : List Value → List Value → Bool
  | [], [] => true
  | x :: xs, y :: ys => same x y && sameAll xs ys
  | _, _ => false

end

/-- Whether two outcomes are the same, asked of the outcome in general rather than of
its track. There is no answer about a value that is none. -/
def sameOutcome? : Value → Value → Option Bool
  | _, .null | _, .bool _ | _, .int _ | _, .text _ | _, .list _ | _, .description _ => none
  | .success a, .success b => some (same a b)
  | .failure f, .failure g => some (f.agrees g)
  | _, _ => some false

/-! ### Hashing -/

/-- The fault of a value that has no hash. -/
def unhashable (kind : String) : Fault :=
  .ofText Fault.Kind.type ("unhashable type: '" ++ kind ++ "'")

/-- **The hash of a value**, if it has one: lists, and what contains them, have none. That of
a description takes its time in; faults have no hash of their own and are left out. -/
def hashed : Value → Except Fault UInt64
  | .null => .ok 1
  | .bool b => .ok (hash (b.toNat : Int))
  | .int n => .ok (hash n)
  | .text s => .ok (hash s)
  | .list _ => .error (unhashable "list")
  | .success value => do return mixHash 3 (← hashed value)
  | .failure f => .ok (mixHash 5 (mixHash (hash f.code.name) (hash f.message)))
  | .description f =>
    .ok (mixHash 7 (mixHash (hash f.time) (mixHash (hash f.code.name) (hash f.message))))
  | .unformed => .error (unhashable "Result")

/-! ### Operations of outcomes -/

variable {m : Type → Type} [Monad m] [MonadExceptOf Fault m]

/-- The fault of a value that has no such operation. -/
def noMember (v : Value) (operation : String) : Fault :=
  .ofText Fault.Kind.member
    ("'" ++ v.kindName ++ "' object has no attribute '" ++ operation ++ "'")

/-- The outcome that a value is, for the sake of an operation. -/
def track (v : Value) (operation : String) : m (Outcome Value) :=
  match v with
  | .success value => pure (.ok value)
  | .failure reason => pure (.error reason)
  | .unformed => throw unreachable
  | _ => throw (v.noMember operation)

/-- A success, unless the value stands for none. -/
def succeed (value : Value) : m Value := do
  return ofOutcome (← Outcome.succeed value)

def either (v : Value) (onSuccess : Value → m Value) (onFailure : Failure → m Value) :
    m Value := do
  Outcome.either (← track v "either") onSuccess onFailure

def map (v : Value) (f : Value → m Value) : m Value := do
  return ofOutcome (← Outcome.map (← track v "map") f)

/-- Goes on with a function that has an outcome of its own; what it gives is not looked
at. -/
def flatMap (v : Value) (f : Value → m Value) : m Value := do
  Outcome.either (← track v "flat_map") f fun reason => return .failure reason

/-- An unformed value is handed on as it is. -/
def peek (v : Value) (action : Value → m Unit) : m Value :=
  match v with
  | .unformed => return v
  | _ => do return ofOutcome (← Outcome.peek (← track v "peek") action)

/-- An unformed value is handed on as it is. -/
def peekFailure (v : Value) (action : Failure → m Unit) : m Value :=
  match v with
  | .unformed => return v
  | _ => do return ofOutcome (← Outcome.peekFailure (← track v "peek_failure") action)

/-- **Both values together.** The second value is not looked at if the first one is no
success. -/
def combine (first second : Value) (f : Value → Value → m Value) : m Value :=
  flatMap first fun a => map second fun b => f a b

def value (v : Value) : m Value := do
  Outcome.value (← track v "value")

/-- The failure that a value is. -/
def error (v : Value) : m Failure := do
  Outcome.failure (← track v "error") fun value => ofExcept value.plain

/-- Whether the value is on the success track; an unformed value is on none. -/
def isSuccess (v : Value) : m Bool :=
  match v with
  | .unformed => return false
  | _ => do Outcome.either (← track v "is_success") (fun _ => pure true) fun _ => pure false

/-- Whether the value is on the failure track. -/
def isFailure (v : Value) : m Bool :=
  match v with
  | .unformed => return false
  | _ => do Outcome.either (← track v "is_failure") (fun _ => pure false) fun _ => pure true

/-- A computation as an outcome. -/
def ofComputation (computation : m Value) (code : ErrorCode) (message : String) : m Value := do
  return ofOutcome (← Outcome.ofComputation computation code message)

end Value
end CertChain
