import CertChain.Proofs.Outcome
import CertChain.Proofs.Value.Comparison

/-!
# On which track an outcome is

Four questions can be put to an outcome: for its value, for its failure, and whether it is on the
one track or on the other. Each has an answer of its own, and nothing in these answers refers to
another one. They belong together nevertheless (`Value.tracks`): a value is given exactly where the
first track is claimed, a failure exactly where the second one is, and no outcome claims both. An
unformed outcome claims neither and gives nothing.

What is no outcome has no such members, so each of the questions is a fault there.
-/

namespace CertChain

namespace Value

variable {v w : Value} {reason : Failure}

/-- **Only a success has a value**, the one that it carries. -/
theorem value_ok_iff : (v.value : Except Fault Value) = .ok w ↔ v = .success w := by
  cases v with
  | success u =>
    constructor
    · intro h
      cases h
      rfl
    · intro h
      cases h
      rfl
  | _ => exact ⟨fun h => (nomatch h), fun h => (nomatch h)⟩

/-- **Only a failure has a failure to give**, which is the one that it is. -/
theorem error_ok_iff : (v.error : Except Fault Failure) = .ok reason ↔ v = .failure reason := by
  cases v with
  | failure other =>
    constructor
    · intro h
      cases h
      rfl
    · intro h
      cases h
      rfl
  | success u =>
    -- the value is put into words first, and then it is a fault in any case
    refine ⟨fun h => ?_, fun h => (nomatch h)⟩
    obtain ⟨outcome, houtcome, h⟩ := bind_ok h
    cases houtcome
    obtain ⟨text, -, h⟩ := bind_ok h
    cases h
  | _ => exact ⟨fun h => (nomatch h), fun h => (nomatch h)⟩

/-- Successes say that they are successes, and nothing else does. -/
theorem isSuccess_iff : (v.isSuccess : Except Fault Bool) = .ok true ↔ ∃ u, v = .success u := by
  cases v with
  | success u => exact ⟨fun _ => ⟨u, rfl⟩, fun _ => rfl⟩
  | _ => exact ⟨fun h => (nomatch h), fun ⟨u, h⟩ => (nomatch h)⟩

/-- Failures say that they are failures, and nothing else does. -/
theorem isFailure_iff :
    (v.isFailure : Except Fault Bool) = .ok true ↔ ∃ reason, v = .failure reason := by
  cases v with
  | failure reason => exact ⟨fun _ => ⟨reason, rfl⟩, fun _ => rfl⟩
  | _ => exact ⟨fun h => (nomatch h), fun ⟨u, h⟩ => (nomatch h)⟩

/-- What is an outcome says on which track it is, and nothing else does. -/
theorem isOutcome_iff : v.isOutcome = true
    ↔ (∃ answer, (v.isSuccess : Except Fault Bool) = .ok answer)
      ∧ ∃ answer, (v.isFailure : Except Fault Bool) = .ok answer := by
  cases v with
  | success u => exact ⟨fun _ => ⟨⟨_, rfl⟩, _, rfl⟩, fun _ => rfl⟩
  | failure reason => exact ⟨fun _ => ⟨⟨_, rfl⟩, _, rfl⟩, fun _ => rfl⟩
  | unformed => exact ⟨fun _ => ⟨⟨_, rfl⟩, _, rfl⟩, fun _ => rfl⟩
  | _ => exact ⟨fun h => (nomatch h), fun ⟨⟨_, h⟩, _⟩ => (nomatch h)⟩

/-- **The four answers belong together.** A value is given exactly where the outcome says that it is
a success, and a failure where it says that it is a failure. No outcome says both, and one that says
neither is unformed. -/
theorem tracks (v : Value) :
    ((v.isSuccess : Except Fault Bool) = .ok true ↔ ∃ u, (v.value : Except Fault Value) = .ok u)
    ∧ ((v.isFailure : Except Fault Bool) = .ok true
      ↔ ∃ reason, (v.error : Except Fault Failure) = .ok reason)
    ∧ ¬ ((v.isSuccess : Except Fault Bool) = .ok true
      ∧ (v.isFailure : Except Fault Bool) = .ok true)
    ∧ ((v.isSuccess : Except Fault Bool) = .ok false
      ∧ (v.isFailure : Except Fault Bool) = .ok false ↔ v = .unformed) := by
  simp only [isSuccess_iff, isFailure_iff, value_ok_iff, error_ok_iff, true_and]
  refine ⟨?_, ?_⟩
  · rintro ⟨⟨u, rfl⟩, reason, h⟩
    cases h
  · cases v with
    | unformed => exact ⟨fun _ => rfl, fun _ => ⟨rfl, rfl⟩⟩
    | failure reason => exact ⟨fun h => (nomatch h.2), fun h => (nomatch h)⟩
    | _ => exact ⟨fun h => (nomatch h.1), fun h => (nomatch h)⟩

end Value
end CertChain
