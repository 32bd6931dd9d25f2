import CertChain.Proofs.Value

/-!
# Who is asked whether two values are the same

Whether two values are the same is not for one function to say. Each kind of values has an answer
of its own about other values, or declines to answer, and then the other value is asked. A kind may
be a special case of another one, as truth values are of numbers and the two tracks are of
outcomes; then the more special of two values is asked first. When both decline the values are
not the same. This is `Value.compared`, one step of a comparison: how the values *inside* lists and
successes compare is left open.

`Value.same` is what these steps come to. It satisfies the equation (`Value.compared_same`), and
it is the only function that does (`Value.eq_same_of_compared`).

Outcomes can also be asked in general, without regard to who comes first
(`Value.generalAnswer`, and `Value.sameOutcome?` at the end of all steps). The answers of the two
tracks and the one of outcomes in general were written down independently of each other, and
they could well contradict: which one is heard depends on the order. They do not, however the
values inside compare (`Value.generalAnswer_eq_compared`).
-/

namespace CertChain
namespace Value

/-! ### One step of a comparison -/

section Step

variable (equal : Value → Value → Bool)

/-- Lists are compared item by item. -/
def sameItems : List Value → List Value → Bool
  | [], [] => true
  | x :: xs, y :: ys => equal x y && sameItems xs ys
  | _, _ => false

/-- Whether a value is an outcome, be it only in name. -/
def isOutcome : Value → Bool
  | .success _ | .failure _ | .unformed => true
  | _ => false

/-- **The answer of outcomes in general**, which is none about anything but an outcome. -/
def generalAnswer (v other : Value) : Option Bool :=
  if other.isOutcome then
    some (match v, other with
      | .success a, .success b => equal a b
      | .failure f, .failure g => f.agrees g
      | _, _ => false)
  else none

/-- **The answer of a value about another one**, if it does not decline. Successes know about
successes and failures about failures; only what is on neither track has the answer of outcomes
in general. -/
def answer (v other : Value) : Option Bool :=
  match v, other with
  | .null, .null => some true
  | .bool a, .bool b => some (a == b)
  | .bool a, .int n => some ((a.toNat : Int) == n)
  | .int n, .bool a => some (n == (a.toNat : Int))
  | .int a, .int b => some (a == b)
  | .text a, .text b => some (a == b)
  | .list xs, .list ys => some (sameItems equal xs ys)
  | .success a, .success b => some (equal a b)
  | .failure f, .failure g => some (f.agrees g)
  | .description f, .description g => some (f == g)
  | .unformed, _ => generalAnswer equal .unformed other
  | _, _ => none

/-- Whether the kind of the second value is a special case of the kind of the first one. -/
def isMoreSpecial : Value → Value → Bool
  | .int _, .bool _ | .unformed, .success _ | .unformed, .failure _ => true
  | _, _ => false

/-- The first answer to a question that is put to both values, the more special one first. -/
def asked (question : Value → Value → Option Bool) (a b : Value) : Option Bool :=
  if isMoreSpecial a b then (question b a).or (question a b)
  else (question a b).or (question b a)

/-- **Whether two values are the same**, given how the values inside them compare. -/
def compared (a b : Value) : Bool :=
  (asked (answer equal) a b).getD false

/-- **Whether two values differ.** This is a question of its own: each value inverts its own
answer, and when both decline they differ. -/
def differs (a b : Value) : Bool :=
  (asked (fun v other => (answer equal v other).map (!·)) a b).getD true

/-- What both values would do to their own answers can be done to the answer that is heard. -/
theorem asked_map (question : Value → Value → Option Bool) (f : Bool → Bool) (a b : Value) :
    asked (fun v other => (question v other).map f) a b = (asked question a b).map f := by
  unfold asked
  -- the order of the questions does not depend on what is done to the answers
  split <;> rw [Option.map_or]

/-- That values differ and that they are the same are opposites. -/
theorem differs_eq_not (a b : Value) : differs equal a b = !compared equal a b := by
  rw [differs, asked_map, compared]
  cases asked (answer equal) a b <;> rfl

/-- **Two outcomes compare as outcomes in general do**, no matter which one is asked first and how
the values inside compare. -/
theorem generalAnswer_eq_compared {a b : Value} (ha : a.isOutcome) (hb : b.isOutcome) :
    generalAnswer equal a b = some (compared equal a b) := by
  -- on each pair of tracks the answer that is heard is the general one
  cases a <;> cases ha <;> cases b <;> cases hb <;> rfl

end Step

/-! ### All steps -/

/-- To compare items for sameness is sameness of lists. -/
theorem sameItems_same (xs ys : List Value) : sameItems same xs ys = sameAll xs ys := by
  -- item by item, and lists of different lengths end apart in both
  induction xs generalizing ys with
  | nil => cases ys <;> simp [sameItems, sameAll]
  | cons x xs ih =>
    cases ys with
    | nil => simp [sameItems, sameAll]
    | cons y ys => rw [sameItems, sameAll, ih]

/-- **Sameness is a comparison** in which the values inside are compared for sameness. -/
theorem compared_same (a b : Value) : compared same a b = same a b := by
  cases a <;> cases b
  case int.bool n b =>
    -- The truth value is asked first.
    simpa [compared, asked, isMoreSpecial, answer, same] using eq_comm
  all_goals simp [compared, asked, isMoreSpecial, answer, generalAnswer, isOutcome, same,
    sameItems_same]

mutual

/-- **There is no other comparison**: to say how values compare, given how the values inside them
do, is to say that they are compared for sameness. -/
theorem eq_same_of_compared {equal : Value → Value → Bool}
    (h : ∀ a b, equal a b = compared equal a b) : ∀ a b, equal a b = same a b
  | .success a, b => by
    -- a step of the comparison leaves the value inside, which is smaller
    rw [h, ← compared_same]
    cases b with
    | success b => exact eq_same_of_compared h a b
    | _ => rfl
  | .list xs, b => by
    rw [h, ← compared_same]
    cases b with
    | list ys => exact sameItems_of_compared h xs ys
    | _ => rfl
  | .null, b | .bool _, b | .int _, b | .text _, b | .failure _, b | .description _, b
  | .unformed, b => by
    rw [h, ← compared_same]
    cases b <;> rfl

/-- Items that compare in this way are compared for sameness. -/
theorem sameItems_of_compared {equal : Value → Value → Bool}
    (h : ∀ a b, equal a b = compared equal a b) :
    ∀ xs ys, sameItems equal xs ys = sameItems same xs ys
  | [], ys => by cases ys <;> simp [sameItems]
  | x :: xs, [] => by simp [sameItems]
  | x :: xs, y :: ys => by
    rw [sameItems, sameItems, eq_same_of_compared h x y, sameItems_of_compared h xs ys]

end

/-- Outcomes that are asked in general give their answer in general. -/
theorem sameOutcome?_eq_generalAnswer (a b : Value) :
    sameOutcome? a b = generalAnswer same a b := by
  cases a <;> cases b <;> rfl

/-- **The laws of sameness.** It is an equivalence, which keeps the tracks apart and does not
depend on what is behind failures. For outcomes it does not matter who is asked, and whether they
are the same or differ, however the values inside compare. What is the same has the same hash, and
the hash is missing exactly if there is a list or an unformed value below all successes. -/
theorem same_laws :
    (Equivalence fun a b : { v : Value // Formed v } => same a b = true)
    ∧ (∀ v f, same (.success v) (.failure f) = false ∧ same (.failure f) (.success v) = false)
    ∧ (∀ a b : Value, same a.stripped b.stripped = same a b)
    ∧ (∀ a b : Value, a.isOutcome → b.isOutcome →
        sameOutcome? a b = some (same a b)
        ∧ compared same a b = same a b ∧ differs same a b = !same a b
        ∧ ∀ equal, generalAnswer equal a b = some (compared equal a b)
          ∧ differs equal a b = !compared equal a b)
    ∧ (∀ a b, same a b = true → hashed a = hashed b)
    ∧ ∀ v, (Unhashable v ↔ ∃ fault, hashed v = .error fault ∧ fault.head.kind = Fault.Kind.type)
        ∧ (¬ Unhashable v ↔ ∃ n, hashed v = .ok n) := by
  refine ⟨equivalence_same, fun v f => ⟨rfl, rfl⟩,
    same_stripped, fun a b ha hb => ⟨?_, compared_same a b, ?_, fun equal =>
      ⟨generalAnswer_eq_compared equal ha hb, differs_eq_not equal a b⟩⟩,
    fun a b => hashed_eq_of_same, unhashable_iff⟩
  · rw [sameOutcome?_eq_generalAnswer, generalAnswer_eq_compared same ha hb, compared_same]
  · rw [differs_eq_not, compared_same]

/-- A number and a truth value in a success; a failure that comes from a fault, in a list; a
success beside an unformed value. -/
theorem same_laws_samples :
    let noted : Value :=
      .success (.list [.bool true, .failure (.because .ioError "m" unreachable)])
    let plain : Value := .success (.list [.int 1, .failure (.plain .ioError "m")])
    same noted plain = true ∧ same plain noted = true
    ∧ sameOutcome? .unformed plain = some (same .unformed plain)
    ∧ hashed (.success (.int 1)) = hashed (.success (.bool true))
    ∧ ∃ fault, hashed (.success plain) = .error fault ∧ fault.head.kind = Fault.Kind.type := by
  intro noted plain
  obtain ⟨equivalence, -, -, outcomes, hashes, unhashable⟩ := same_laws
  have formed {v : Value} (hv : Formed v) (f : Failure) :
      Formed (.success (.list [v, .failure f])) := by
    refine .success (.list ?_)
    simp [hv, Formed.failure]
  have there : same noted plain = true := rfl
  have back : same plain noted = true :=
    equivalence.symm (x := ⟨noted, formed (.bool true) _⟩) (y := ⟨plain, formed (.int 1) _⟩) there
  have asked_in_general : sameOutcome? .unformed plain = some (same .unformed plain) :=
    (outcomes .unformed plain rfl rfl).1
  exact ⟨there, back, asked_in_general, hashes _ _ rfl,
    (unhashable _).1.mp (.success (.success (.list _)))⟩

end Value
end CertChain
