import CertChain.Proofs.Pipeline.Order

/-!
# The end of a pipeline within one step

The end of a pipeline may be put into one function that is handed to `flatMap`. One would think
that this is a matter of taste, and mostly it is: as long as the track has not turned before,
the same functions are called, the world is the same afterwards, and so is the outcome or the
fault (`Pipeline.Runs.nested_on_eq`).

When the track has turned, a `flatMap` passes the failure on and calls nothing, whereas the
long pipeline still calls all steps that watch failures (`Pipeline.Regroups`). For the outcome
this makes no difference unless one of these ends in a fault. If one does, the fault is there in
one case and not in the other (`Pipeline.not_regrouped_raising`).
-/

namespace CertChain
namespace Pipeline

variable {World : Type} {position : Nat} {before after : List (Step World)}
  {start track : Outcome Value} {world : World} {t u : Transcript World}

/-! ### Two ways to put it -/

/-- **A pipeline whose end is put into one `flatMap`.** -/
def nested (before after : List (Step World)) (start : Outcome Value) : Doing World Value := do
  (← run before start).flatMap fun v => run after (.ok v)

/-- A run goes on where its beginning ends. -/
theorem Runs.append (h : Runs position before start world t) (hending : t.ending = .ok track)
    (hafter : Runs (position + before.length) after track t.world u) :
    Runs position (before ++ after) start world (u.behind t.calls) := by
  -- on the run of the beginning, whose positions go on in the end
  induction h with
  | done =>
    cases hending
    exact hafter
  | skip hturn _ ih =>
    rw [List.length_cons, Nat.add_comm _ 1, ← Nat.add_assoc] at hafter
    exact .skip hturn (ih hending hafter)
  | turn hturn hact _ ih =>
    rw [List.length_cons, Nat.add_comm _ 1, ← Nat.add_assoc] at hafter
    exact .turn hturn hact (ih hending hafter)
  | stop _ _ => cases hending

/-- A run whose beginning faults does not go on. -/
theorem Runs.append_of_fault {fault : Fault} (h : Runs position before start world t)
    (hending : t.ending = .error fault) (after : List (Step World)) :
    Runs position (before ++ after) start world t := by
  induction h with
  | done => cases hending
  | skip hturn _ ih => exact .skip hturn (ih hending)
  | turn hturn hact _ ih => exact .turn hturn hact (ih hending)
  | stop hturn hact => exact .stop hturn hact

/-- What comes of the beginning decides whether the end is looked at. -/
theorem Runs.nested_on (h : Runs position before start world t) (after : List (Step World)) :
    (nested before after start).on world = match t.ending with
      | .ok (.ok v) => (run after (.ok v)).on t.world
      | .ok (.error reason) => (.ok (.failure reason), t.world)
      | .error fault => (.error fault, t.world) := by
  rw [nested, Doing.on_bind, h.run_on]
  rcases t.ending with fault | reason | v
  · rfl
  · rfl
  · rfl

/-- **As long as the track has not turned** the nested pipeline does what the long one does. -/
theorem Runs.nested_on_eq (h : Runs position before start world t)
    (hending : ∀ reason, t.ending ≠ .ok (.error reason)) (after : List (Step World)) :
    (nested before after start).on world = (run (before ++ after) start).on world := by
  -- the beginning is run first in both cases
  rw [h.nested_on after]
  -- behind a fault and behind a success both do the same, and there is no failure
  rcases hresult : t.ending with fault | reason | v
  · rw [(h.append_of_fault hresult after).run_on, hresult]
    rfl
  · exact absurd hresult (hending reason)
  · obtain ⟨u, hu⟩ := exists_runs (position + before.length) after (.ok v) t.world
    rw [(h.append hresult hu).run_on]
    exact hu.run_on

/-- **Putting the end of a pipeline into one step.** It changes nothing unless the track has
turned before. Then the nested pipeline is done, and the long one goes on to call all steps that
watch. -/
structure Regroups (before after : List (Step World)) (start : Outcome Value) (world : World)
    (t : Transcript World) : Prop where
  straight : (∀ reason, t.ending ≠ .ok (.error reason)) →
    (nested before after start).on world = (run (before ++ after) start).on world
      ∧ (nested (noted 0 before) (noted before.length after) start).on (world, [])
        = (run (noted 0 (before ++ after)) start).on (world, [])
  turned : ∀ reason, t.ending = .ok (.error reason) →
    (nested before after start).on world = (.ok (.failure reason), t.world)
      ∧ (nested (noted 0 before) (noted before.length after) start).on (world, [])
        = (.ok (.failure reason), (t.world, t.calls))
      ∧ ∃ u watching, Runs 0 (before ++ after) start world u
        ∧ u.calls = t.calls ++ watching ∧ Watching before.length after reason watching u.ending

/-- Of the beginning of a pipeline it is known when its end can be put into one step. -/
theorem Runs.regroups (h : Runs 0 before start world t) (after : List (Step World)) :
    Regroups before after start world t := by
  -- the functions that take notes are those of a pipeline as well
  have hnoted : Runs 0 (Pipeline.noted 0 before) start (world, [])
      ⟨t.calls, t.ending, (t.world, t.calls)⟩ := h.noted []
  constructor
  · intro hending
    have happend := noted_append 0 before after
    rw [Nat.zero_add] at happend
    refine ⟨h.nested_on_eq hending after, ?_⟩
    rw [happend]
    exact hnoted.nested_on_eq hending _
  · intro reason hending
    obtain ⟨u, hu⟩ := exists_runs (0 + before.length) after (.error reason) t.world
    refine ⟨?_, ?_, u.behind t.calls, u.calls, h.append hending hu, rfl, ?_⟩
    · rw [h.nested_on after, hending]
    · rw [hnoted.nested_on]
      simp only [hending]
    · rw [Nat.zero_add] at hu
      exact hu.watching

/-- **A pipeline of any length does what it should**, and calls what it should call in the order
in which it should be called; and putting its end into one step changes nothing, except for what
is told to those that watch behind the step at which the track turned. -/
theorem run_exact (steps : List (Step World)) (start : Outcome Value) (world : World) :
    ∃ t, Runs 0 steps start world t
      ∧ (run steps start).on world = (t.ending.map Value.ofOutcome, t.world)
      ∧ (run (noted 0 steps) start).on (world, [])
        = (t.ending.map Value.ofOutcome, (t.world, t.calls))
      ∧ Legs 0 steps t start
      ∧ ∀ before after, steps = before ++ after →
        ∃ s, Runs 0 before start world s ∧ Regroups before after start world s := by
  -- the run is the one that there is; all that is claimed is about this one
  obtain ⟨t, ht⟩ := exists_runs 0 steps start world
  refine ⟨t, ht, ht.run_on, (ht.noted []).run_on, ht.legs, ?_⟩
  rintro before after rfl
  obtain ⟨s, hs⟩ := exists_runs 0 before start world
  exact ⟨s, hs, hs.regroups after⟩

/-- A failure for the sake of example. -/
def refused : Failure :=
  .plain .decodeError "m"

/-- A step that watches failures and ends in a fault. -/
def raising : Step Unit :=
  .peekFailure fun _ => throw (.ofText Fault.Kind.value "x")

/-- A pipeline whose track turns at the second step. -/
def exemplary : List (Step Unit) :=
  [.map fun _ => pure (.int 1), .flatMap fun _ => pure (.error refused), .peek pure, raising]

/-- The third step of the example is never called, and its fourth one has the last word, from a
success as well as from a failure. -/
theorem run_exact_exemplary :
    (∃ t, Runs 0 exemplary (.ok (.text "a")) () t
      ∧ t.calls = [⟨0, .inl (.text "a")⟩, ⟨1, .inl (.int 1)⟩, ⟨3, .inr refused⟩]
      ∧ ∃ s, Runs 0 (exemplary.take 3) (.ok (.text "a")) () s
        ∧ Regroups (exemplary.take 3) (exemplary.drop 3) (.ok (.text "a")) () s)
    ∧ ∃ t, Runs 0 exemplary (.error refused) () t
      ∧ Legs 0 exemplary t (.error refused) := by
  constructor
  · obtain ⟨t, ht, -, hnoted, -, hregroups⟩ := run_exact exemplary (.ok (.text "a")) ()
    have hcalls : ((run (noted 0 exemplary) (.ok (.text "a"))).on ((), [])).2.2
        = [⟨0, .inl (.text "a")⟩, ⟨1, .inl (.int 1)⟩, ⟨3, .inr refused⟩] := rfl
    rw [hnoted] at hcalls
    exact ⟨t, ht, hcalls, hregroups _ _ (List.take_append_drop 3 exemplary).symm⟩
  · obtain ⟨t, ht, -, -, hlegs, -⟩ := run_exact exemplary (.error refused) ()
    exact ⟨t, ht, hlegs⟩

/-- **A fault of a step that watches is lost** when the step is put into a `flatMap` that the
failure does not reach. -/
theorem not_regrouped_raising :
    (nested [] [raising] (.error refused)).on () = (.ok (.failure refused), ())
      ∧ (run ([] ++ [raising]) (.error refused)).on ()
        = (.error (.ofText Fault.Kind.value "x"), ())
      ∧ ¬ ∀ (before after : List (Step Unit)) (start : Outcome Value) (world : Unit),
        (nested before after start).on world = (run (before ++ after) start).on world := by
  have hnested : (nested [] [raising] (.error refused)).on () = (.ok (.failure refused), ()) := rfl
  have hrun : (run ([] ++ [raising]) (.error refused)).on ()
      = (.error (.ofText Fault.Kind.value "x"), ()) := rfl
  refine ⟨hnested, hrun, fun h => ?_⟩
  have hsame := h [] [raising] (.error refused) ()
  rw [hnested, hrun] at hsame
  cases hsame

end Pipeline
end CertChain
