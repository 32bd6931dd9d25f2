import CertChain.Proofs.Pipeline
import Mathlib.Data.List.Infix

/-!
# The order of calls in a pipeline

The calls that a pipeline makes are in the order of its steps, and of two sorts
(`Pipeline.Runs.legs`). As long as the track is a success all steps are called that act on
values, and no others. Behind the step at which it turns it is the other way round: all steps
that watch failures are called, with one and the same failure, which is what the pipeline ends
with. A fault cuts this short wherever it occurs.
-/

namespace CertChain
namespace Pipeline

variable {World : Type} {position : Nat} {steps : List (Step World)} {start track : Outcome Value}
  {world : World} {t : Transcript World}

/-! ### What is called -/

/-- The positions of steps of one sort. -/
def positionsOf (who : Step World → Bool) (position : Nat) : List (Step World) → List Nat
  | [] => []
  | step :: rest =>
    if who step then position :: positionsOf who (position + 1) rest
    else positionsOf who (position + 1) rest

/-- **The calls of all steps that act on values**, in order, each with a value. -/
structure Worked (position : Nat) (steps : List (Step World)) (calls : List Call) : Prop where
  positions : calls.map Call.position = positionsOf Step.works position steps
  values : ∀ call ∈ calls, ∃ v, call.argument = .inl v

/-- The calls of all steps that watch, with one failure. -/
def watched (position : Nat) (steps : List (Step World)) (reason : Failure) : List Call :=
  (positionsOf (fun step => !step.works) position steps).map fun i => ⟨i, .inr reason⟩

/-- **What becomes of a failure**: all steps that watch are called with it and it stays what it
is, unless one of them faults, which is called last then. -/
inductive Watching (position : Nat) (steps : List (Step World)) (reason : Failure)
    (calls : List Call) : Except Fault (Outcome Value) → Prop where
  | all (hcalls : calls = watched position steps reason) :
    Watching position steps reason calls (.ok (.error reason))
  | cut {fault : Fault} (hcalls : calls <+: watched position steps reason) :
    Watching position steps reason calls (.error fault)

/-- **The legs of a run.** On a success all steps are called that act on values, until the run
ends, at the end of the steps or with a fault, or until the track turns at one of these steps.
From there on, or from the start if that is a failure, all steps are called that watch. -/
inductive Legs (position : Nat) (steps : List (Step World)) (t : Transcript World) :
    Outcome Value → Prop where
  | straight {v : Value} {before after : List (Step World)} (hsteps : steps = before ++ after)
    (hworked : Worked position before t.calls)
    (hending : (∃ w, t.ending = .ok (.ok w)) ∧ after = [] ∨ ∃ fault, t.ending = .error fault) :
    Legs position steps t (.ok v)
  | turned {v : Value} {before after : List (Step World)} {last : Step World}
    {working watching : List Call} {reason : Failure} (hsteps : steps = before ++ last :: after)
    (hlast : last.works = true) (hcalls : t.calls = working ++ watching)
    (hworked : Worked position (before ++ [last]) working)
    (hwatching : Watching (position + before.length + 1) after reason watching t.ending) :
    Legs position steps t (.ok v)
  | failed {reason : Failure} (hwatching : Watching position steps reason t.calls t.ending) :
    Legs position steps t (.error reason)

section Turns

variable {step : Step World} {rest : List (Step World)} {argument : Value ⊕ Failure}
  {act : Doing World (Outcome Value)} {v : Value} {reason : Failure} {calls : List Call}

/-- On a success it is the turn of the steps that act on values. -/
theorem Step.turn?_ok (hturn : step.turn? (.ok v) = some (argument, act)) :
    step.works = true ∧ argument = .inl v := by
  cases step <;> cases hturn <;> exact ⟨rfl, rfl⟩

/-- A step that is passed over on a success watches failures. -/
theorem Step.not_turn?_ok (hturn : step.turn? (.ok v) = none) : step.works = false := by
  cases step <;> first | rfl | cases hturn

/-- On a failure it is the turn of the steps that do not act on values, and they leave it what it
is. -/
theorem Step.turn?_error (hturn : step.turn? (.error reason) = some (argument, act)) :
    step.works = false ∧ argument = .inr reason
      ∧ ∀ world next between, act.on world = (.ok next, between) → next = .error reason := by
  cases step <;> cases hturn
  rename_i f
  refine ⟨rfl, rfl, fun world next between hact => ?_⟩
  rw [Doing.on_bind] at hact
  -- what the function gives is dropped, unless it is a fault
  rcases hcall : (f reason).on world with ⟨fault | _, after⟩
  · rw [hcall] at hact
    cases hact
  · rw [hcall] at hact
    cases hact
    rfl

/-- A step that is passed over on a failure acts on values. -/
theorem Step.not_turn?_error (hturn : step.turn? (.error reason) = none) :
    step.works = true := by
  cases step <;> first | rfl | cases hturn

/-- The first step has its position if it is of the sort. -/
theorem positionsOf_cons (who : Step World → Bool) (position : Nat) (step : Step World)
    (rest : List (Step World)) :
    positionsOf who position (step :: rest)
      = if who step then position :: positionsOf who (position + 1) rest
        else positionsOf who (position + 1) rest :=
  rfl

/-- In front of those that watch there may be a step that does not. -/
theorem Watching.pass (hworks : step.works = true) {ending : Except Fault (Outcome Value)}
    (h : Watching (position + 1) rest reason calls ending) :
    Watching position (step :: rest) reason calls ending := by
  have hsame : watched position (step :: rest) reason = watched (position + 1) rest reason := by
    rw [watched, positionsOf_cons, hworks]
    rfl
  cases h with
  | all hcalls => exact .all (hsame ▸ hcalls)
  | cut hcalls => exact .cut (hsame ▸ hcalls)

/-- In front of those that watch there may be another one, which is called first. -/
theorem Watching.cons (hworks : step.works = false) {ending : Except Fault (Outcome Value)}
    (h : Watching (position + 1) rest reason calls ending) :
    Watching position (step :: rest) reason (⟨position, .inr reason⟩ :: calls) ending := by
  have hcons : watched position (step :: rest) reason
      = ⟨position, .inr reason⟩ :: watched (position + 1) rest reason := by
    rw [watched, positionsOf_cons, hworks]
    rfl
  cases h with
  | all hcalls => exact .all (by rw [hcons, hcalls])
  | cut hcalls => exact .cut (hcons ▸ List.cons_prefix_cons.mpr ⟨rfl, hcalls⟩)

/-- **A run that starts on a failure** calls those that watch. -/
theorem Runs.watching (h : Runs position steps (.error reason) world t) :
    Watching position steps reason t.calls t.ending := by
  generalize hstart : (Except.error reason : Outcome Value) = start at h
  -- on the run; a failure stays the same one, so the induction is about this failure
  induction h with
  | done =>
    subst hstart
    exact .all rfl
  | skip hturn _ ih =>
    subst hstart
    exact (ih rfl).pass (Step.not_turn?_error hturn)
  | turn hturn hact _ ih =>
    subst hstart
    obtain ⟨hworks, rfl, hnext⟩ := Step.turn?_error hturn
    exact (ih (hnext _ _ _ hact).symm).cons hworks
  | stop hturn _ =>
    subst hstart
    obtain ⟨hworks, rfl, -⟩ := Step.turn?_error hturn
    exact Watching.cons hworks (.cut List.nil_prefix)

/-- In front of those that act there may be a step that does not. -/
theorem Worked.pass (hworks : step.works = false) (h : Worked (position + 1) rest calls) :
    Worked position (step :: rest) calls := by
  refine ⟨?_, h.values⟩
  rw [positionsOf_cons, hworks, h.positions]
  rfl

/-- In front of those that act there may be another one, which is called first. -/
theorem Worked.cons (hworks : step.works = true) (h : Worked (position + 1) rest calls)
    (v : Value) : Worked position (step :: rest) (⟨position, .inl v⟩ :: calls) := by
  refine ⟨?_, List.forall_mem_cons.mpr ⟨⟨v, rfl⟩, h.values⟩⟩
  rw [positionsOf_cons, hworks, List.map_cons, h.positions]
  rfl

/-- In front of a run on a success there may be a step that watches failures. -/
theorem Legs.pass (hworks : step.works = false) (h : Legs (position + 1) rest t (.ok v)) :
    Legs position (step :: rest) t (.ok v) := by
  cases h with
  | straight hsteps hworked hending =>
    exact .straight (congrArg (step :: ·) hsteps) (hworked.pass hworks) hending
  | @turned _ before after last _ _ _ hsteps hlast hcalls hworked hwatching =>
    rw [Nat.add_assoc position, Nat.add_comm 1] at hwatching
    have hsteps' : step :: rest = step :: before ++ last :: after := congrArg (step :: ·) hsteps
    exact .turned hsteps' hlast hcalls (hworked.pass hworks) hwatching

/-- Before the calls of a run on any track there may be that of a step which leads there. -/
theorem Legs.cons (hworks : step.works = true) (h : Legs (position + 1) rest t track) (v : Value) :
    Legs position (step :: rest) (t.behind [⟨position, .inl v⟩]) (.ok v) := by
  have hcalls : ∀ {working watching : List Call}, t.calls = working ++ watching →
      (t.behind [⟨position, .inl v⟩]).calls = ⟨position, .inl v⟩ :: working ++ watching :=
    congrArg (Call.mk position (.inl v) :: ·)
  -- the step becomes part of the first leg, wherever the track turns
  cases h with
  | straight hsteps hworked hending =>
    exact .straight (congrArg (step :: ·) hsteps) (hworked.cons hworks v) hending
  | @turned _ before after last _ _ _ hsteps hlast h hworked hwatching =>
    rw [Nat.add_assoc position, Nat.add_comm 1] at hwatching
    have hsteps' : step :: rest = step :: before ++ last :: after := congrArg (step :: ·) hsteps
    exact .turned hsteps' hlast (hcalls h) (hworked.cons hworks v) hwatching
  | failed hwatching =>
    -- this is the step at which the track turns
    have hworked : Worked (position + 1) ([] : List (Step World)) [] :=
      ⟨rfl, List.forall_mem_nil _⟩
    exact .turned (List.nil_append _).symm hworks (hcalls (List.nil_append _).symm)
      (hworked.cons hworks v) hwatching

/-- **The calls of a run are in order.** -/
theorem Runs.legs (h : Runs position steps start world t) : Legs position steps t start := by
  have hnone : ∀ position, Worked position ([] : List (Step World)) [] := fun _ =>
    ⟨rfl, List.forall_mem_nil _⟩
  -- on the run; the track in front decides which of the two sorts is called
  induction h with
  | @done position track world =>
    cases track with
    | error reason =>
      have hdone : Runs position [] (.error reason) world ⟨[], .ok (.error reason), world⟩ := .done
      exact .failed hdone.watching
    | ok v => exact .straight (List.nil_append []).symm (hnone position) (.inl ⟨⟨v, rfl⟩, rfl⟩)
  | @skip _ _ _ track _ _ hturn hrest ih =>
    cases track with
    | error reason => exact .failed (Runs.watching (.skip hturn hrest))
    | ok v => exact ih.pass (Step.not_turn?_ok hturn)
  | @turn _ _ _ track _ _ _ _ _ _ hturn hact hrest ih =>
    cases track with
    | error reason => exact .failed (Runs.watching (.turn hturn hact hrest))
    | ok v =>
      obtain ⟨hworks, rfl⟩ := Step.turn?_ok hturn
      exact ih.cons hworks v
  | @stop position step rest track _ _ _ _ _ hturn hact =>
    cases track with
    | error reason => exact .failed (Runs.watching (.stop hturn hact))
    | ok v =>
      obtain ⟨hworks, rfl⟩ := Step.turn?_ok hturn
      exact .straight (List.singleton_append (x := step)).symm
        ((hnone (position + 1)).cons hworks v) (.inr ⟨_, rfl⟩)

end Turns

end Pipeline
end CertChain
