import CertChain.Failure

/-!
# Outcomes

An outcome is a success that carries a value, or a failure. The operations of this
file work along it as along two tracks: `map`, `flatMap` and `peek` act on a success
and leave a failure alone, `peekFailure` does the opposite, and `combine` joins two
outcomes, the failure of the first one having precedence.

The functions handed to them may have effects and may be cut short by a fault, so all
operations are written for any monad `m` in which faults can be thrown. Nothing but
`ofComputation` turns a fault into a failure.

Some types have a value that stands for no value at all (`HasNull`). A success never
carries it: where one would, there is the fault `Outcome.nullSuccess`.
-/

namespace CertChain

/-- A success with a value, or a failure. -/
abbrev Outcome (α : Type) := Except Failure α

/-- Which value of a type stands for no value. Unless a type says otherwise there is
none. -/
class HasNull (α : Type) where
  isNull : α → Bool

instance (priority := low) (α : Type) : HasNull α := ⟨fun _ => false⟩

namespace Outcome

/-- The fault of a success that would carry no value. -/
def nullSuccess : Fault :=
  .ofText Fault.Kind.type "Success value must not be None"

/-- The fault of a failure that would describe nothing. -/
def nullFailure : Fault :=
  .ofText Fault.Kind.type "Failure error must not be None"

variable {m : Type → Type} [Monad m] [MonadExceptOf Fault m] {α β γ : Type}

/-- The success that carries `value`, which must not stand for no value. -/
def succeed [HasNull α] (value : α) : m (Outcome α) :=
  if HasNull.isNull value then throw nullSuccess else pure (.ok value)

/-- **One of two functions**, according to the track. -/
def either (outcome : Outcome α) (onSuccess : α → m β) (onFailure : Failure → m β) : m β :=
  match outcome with
  | .ok value => onSuccess value
  | .error failure => onFailure failure

/-- Applies a function to the value of a success. -/
def map [HasNull β] (outcome : Outcome α) (f : α → m β) : m (Outcome β) :=
  either outcome (fun value => do succeed (← f value)) fun failure => pure (.error failure)

/-- Goes on with a function that has an outcome of its own. -/
def flatMap (outcome : Outcome α) (f : α → m (Outcome β)) : m (Outcome β) :=
  either outcome f fun failure => pure (.error failure)

/-- Does something with the value of a success, and hands the outcome on. -/
def peek (outcome : Outcome α) (action : α → m Unit) : m (Outcome α) := do
  either outcome action fun _ => pure ()
  return outcome

/-- Does something with a failure, and hands the outcome on. -/
def peekFailure (outcome : Outcome α) (action : Failure → m Unit) : m (Outcome α) := do
  either outcome (fun _ => pure ()) action
  return outcome

/-- **Both values together.** The first failure counts. -/
def combine [HasNull γ] (first : Outcome α) (second : Outcome β) (f : α → β → m γ) :
    m (Outcome γ) :=
  flatMap first fun a => map second fun b => f a b

/-- **A computation as an outcome**: what it gives is a success; a fault becomes a
failure with the given code and message, unless it is a departure. -/
def ofComputation [HasNull α] (computation : m α) (code : ErrorCode) (message : String) :
    m (Outcome α) :=
  tryCatch (do succeed (← computation)) fun fault =>
    if fault.isDeparture then throw fault else pure (.error (.because code message fault))

/-- The value of a success. -/
def value (outcome : Outcome α) : m α :=
  either outcome pure fun failure =>
    throw (.ofText Fault.Kind.value ("Cannot get value from a Failure: " ++ failure.message))

/-- The failure, where a success is a fault whose text holds `text` of its value. -/
def failure (outcome : Outcome α) (text : α → m String) : m Failure :=
  either outcome
    (fun value => do
      throw (.ofText Fault.Kind.value ("Cannot get error from a Success: " ++ (← text value))))
    pure

end Outcome
end CertChain
