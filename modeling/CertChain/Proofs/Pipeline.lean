import CertChain.Value

/-!
# Pipelines

Whoever works with outcomes strings operations together: `map`, `flatMap`, `peek` and
`peekFailure`, one after another, as many as are needed. This file says what a pipeline does,
however long it is, whatever its functions do to the world around them, and although any of
them may end in a fault.

What it should do is `Pipeline.Runs`. It goes along the steps with the current outcome, the
*track*, and asks of each step whether it is its turn (`Step.turn?`): the functions of `map`,
`flatMap` and `peek` are called on a success and with its value, that of `peekFailure` on a
failure and with that. What the function gives is the next track; a fault ends everything.

That a pipeline comes to this is `Pipeline.Runs.run_on`. For the calls it is
`Pipeline.Runs.noted`, where they are made visible by functions that take a note before they do
anything else.
-/

namespace CertChain

/-! ### Computations in a world -/

/-- Computations that change a world and may end in a fault. What has been changed by then stays
changed. -/
abbrev Doing (World : Type) := ExceptT Fault (StateM World)

namespace Doing

variable {World α β : Type}

/-- **What comes of a computation** in a world, and what becomes of the world. -/
def on (x : Doing World α) (world : World) : Except Fault α × World :=
  (ExceptT.run x).run world

/-- A computation that gives what it has leaves the world alone. -/
theorem on_pure (a : α) (world : World) : (pure a : Doing World α).on world = (.ok a, world) :=
  rfl

/-- A computation goes on in the world as the one before it has left it, unless that ended in a
fault. -/
theorem on_bind (x : Doing World α) (f : α → Doing World β) (world : World) :
    (x >>= f).on world = match x.on world with
      | (.ok a, after) => (f a).on after
      | (.error fault, after) => (.error fault, after) := by
  unfold on
  rw [ExceptT.run_bind, StateT.run_bind]
  generalize StateT.run (ExceptT.run x) world = result
  rcases result with ⟨ending, after⟩
  cases ending with
  | ok a => rfl
  | error fault => rfl

/-- To change a result does not change the world. -/
theorem on_map (g : α → β) (x : Doing World α) (world : World) :
    (g <$> x).on world = ((x.on world).1.map g, (x.on world).2) := by
  rw [map_eq_pure_bind, on_bind]
  generalize x.on world = result
  rcases result with ⟨ending, after⟩
  cases ending with
  | ok a => rfl
  | error fault => rfl

/-- A handler goes on where the fault arose. -/
theorem on_tryCatch (x : Doing World α) (handler : Fault → Doing World α) (world : World) :
    (tryCatch x handler).on world = match x.on world with
      | (.ok a, after) => (.ok a, after)
      | (.error fault, after) => (handler fault).on after := by
  have hx : StateT.run (ExceptT.run x) world = x.on world := rfl
  show StateT.run (ExceptT.run (ExceptT.tryCatch x handler)) world = _
  -- the handler is asked in the world as it is when the fault arises
  rw [ExceptT.tryCatch, ExceptT.run_mk, StateT.run_bind]
  unfold ExceptT.run at hx
  rw [hx]
  rcases x.on world with ⟨ending, after⟩
  cases ending with
  | ok a => rfl
  | error fault => rfl

/-- Whether a success carries anything is not a matter of the world. -/
theorem on_outcomeSucceed [HasNull α] (a : α) (world : World) :
    (Outcome.succeed a : Doing World (Outcome α)).on world = (Outcome.succeed a, world) := by
  unfold Outcome.succeed
  by_cases hnull : HasNull.isNull a = true
  · rw [if_pos hnull, if_pos hnull]
    rfl
  · rw [if_neg hnull, if_neg hnull]
    rfl

/-- A success that would carry nothing is a fault. -/
theorem on_succeed (v : Value) (world : World) :
    (Outcome.succeed v : Doing World (Outcome Value)).on world
      = (if v.isNull then .error Outcome.nullSuccess else .ok (.ok v), world) :=
  on_outcomeSucceed v world

/-- **What comes of a computation as an outcome** depends on how it ends, and the world stays as
it is then. -/
theorem on_ofComputation [HasNull α] (x : Doing World α) (code : ErrorCode) (message : String)
    (world : World) :
    (Outcome.ofComputation x code message).on world
      = (Outcome.ofComputation (x.on world).1 code message, (x.on world).2) := by
  -- the check for null is under the handler, together with the computation
  have hbody : (do Outcome.succeed (← x) : Doing World (Outcome α)).on world
      = (do Outcome.succeed (← (x.on world).1), (x.on world).2) := by
    rw [on_bind]
    rcases x.on world with ⟨fault | a, after⟩
    · rfl
    · exact on_outcomeSucceed a after
  rw [Outcome.ofComputation, on_tryCatch, hbody, Outcome.ofComputation]
  rcases (do Outcome.succeed (← (x.on world).1) : Except Fault (Outcome α)) with fault | outcome
  · -- departures are thrown again, and all other faults become failures
    show (if fault.isDeparture = true then throw fault
      else pure (.error (.because code message fault)) : Doing World (Outcome α)).on _
        = (if fault.isDeparture = true then throw fault
          else pure (.error (.because code message fault)), _)
    by_cases h : fault.isDeparture = true
    · rw [if_pos h, if_pos h]
      rfl
    · rw [if_neg h, if_neg h]
      rfl
  · rfl

end Doing

/-! ### Values that are outcomes -/

namespace Value

variable {m : Type → Type} [Monad m] [MonadExceptOf Fault m]

/-- A value that is an outcome is on the track that the outcome is. -/
theorem track_ofOutcome (outcome : Outcome Value) (operation : String) :
    track (ofOutcome outcome) operation = (pure outcome : m (Outcome Value)) := by
  cases outcome with
  | ok v => rfl
  | error reason => rfl

variable [LawfulMonad m]

/-- An operation on a value that is an outcome is the operation on the outcome. -/
theorem map_ofOutcome (outcome : Outcome Value) (f : Value → m Value) :
    (ofOutcome outcome).map f = ofOutcome <$> outcome.map f := by
  rw [map, track_ofOutcome, pure_bind, map_eq_pure_bind]

/-- The same of operations whose function gives an outcome itself. -/
theorem flatMap_ofOutcome (outcome : Outcome Value) (f : Value → m (Outcome Value)) :
    (ofOutcome outcome).flatMap (fun v => ofOutcome <$> f v) = ofOutcome <$> outcome.flatMap f := by
  rw [flatMap, track_ofOutcome, pure_bind]
  cases outcome with
  | ok v => rfl
  | error reason =>
    show pure (failure reason) = ofOutcome <$> (pure (.error reason) : m (Outcome Value))
    rw [map_pure]
    rfl

/-- The same of those that watch successes. -/
theorem peek_ofOutcome (outcome : Outcome Value) (action : Value → m Unit) :
    (ofOutcome outcome).peek action = ofOutcome <$> outcome.peek action := by
  have htrack : (ofOutcome outcome).peek action
      = do return ofOutcome (← Outcome.peek (← track (ofOutcome outcome) "peek") action) := by
    cases outcome with
    | ok v => rfl
    | error reason => rfl
  rw [htrack, track_ofOutcome, pure_bind, map_eq_pure_bind]

/-- The same of those that watch failures. -/
theorem peekFailure_ofOutcome (outcome : Outcome Value) (action : Failure → m Unit) :
    (ofOutcome outcome).peekFailure action = ofOutcome <$> outcome.peekFailure action := by
  have htrack : (ofOutcome outcome).peekFailure action
      = do return ofOutcome (← Outcome.peekFailure
        (← track (ofOutcome outcome) "peek_failure") action) := by
    cases outcome with
    | ok v => rfl
    | error reason => rfl
  rw [htrack, track_ofOutcome, pure_bind, map_eq_pure_bind]

end Value

namespace Pipeline

variable {World : Type}

/-! ### Steps -/

/-- **A step of a pipeline**, with its function. What those functions give that only watch is
dropped. -/
inductive Step (World : Type) where
  | map (f : Value → Doing World Value)
  | flatMap (f : Value → Doing World (Outcome Value))
  | peek (f : Value → Doing World Value)
  | peekFailure (f : Failure → Doing World Value)

namespace Step

/-- The operation that a step is. -/
def take (step : Step World) (v : Value) : Doing World Value :=
  match step with
  | .map f => v.map f
  | .flatMap f => v.flatMap fun a => Value.ofOutcome <$> f a
  | .peek f => v.peek fun a => do
    let _ ← f a
    return ()
  | .peekFailure f => v.peekFailure fun reason => do
    let _ ← f reason
    return ()

/-- **Whether it is a step's turn** on a track: with what its function is called then, and what
is done for the next track. -/
def turn? (step : Step World) (track : Outcome Value) :
    Option ((Value ⊕ Failure) × Doing World (Outcome Value)) :=
  match step, track with
  | .map f, .ok v => some (.inl v, do Outcome.succeed (← f v))
  | .flatMap f, .ok v => some (.inl v, f v)
  | .peek f, .ok v => some (.inl v, do
      let _ ← f v
      return .ok v)
  | .peekFailure f, .error reason => some (.inr reason, do
      let _ ← f reason
      return .error reason)
  | _, _ => none

/-- Whether a step acts on values. The others watch failures. -/
def works : Step World → Bool
  | .peekFailure _ => false
  | _ => true

/-- **A step is its turn**, and if it is not its turn, nothing. -/
theorem take_ofOutcome (step : Step World) (track : Outcome Value) :
    step.take (Value.ofOutcome track) = Value.ofOutcome <$> match step.turn? track with
      | none => pure track
      | some (_, act) => act := by
  -- on each track the operation either has its turn or hands the track on
  cases step with
  | map f =>
    rw [take, Value.map_ofOutcome]
    cases track with
    | ok v => rfl
    | error reason => rfl
  | flatMap f =>
    rw [take, Value.flatMap_ofOutcome]
    cases track with
    | ok v => rfl
    | error reason => rfl
  | peek f =>
    rw [take, Value.peek_ofOutcome]
    cases track with
    | ok v =>
      show Value.ofOutcome <$> ((f v >>= fun _ => pure ()) >>= fun _ => pure (.ok v)) = _
      simp only [bind_assoc, pure_bind]
      rfl
    | error reason => rfl
  | peekFailure f =>
    rw [take, Value.peekFailure_ofOutcome]
    cases track with
    | ok v => rfl
    | error reason =>
      show Value.ofOutcome <$>
        ((f reason >>= fun _ => pure ()) >>= fun _ => pure (.error reason)) = _
      simp only [bind_assoc, pure_bind]
      rfl

end Step

/-! ### Runs -/

/-- **The run of a pipeline** from an outcome. -/
def run (steps : List (Step World)) (start : Outcome Value) : Doing World Value :=
  steps.foldlM (fun v step => step.take v) (Value.ofOutcome start)

/-- A call: whose function it is, by the position of the step, and what it is called with. -/
structure Call where
  position : Nat
  argument : Value ⊕ Failure

/-- What there is to say of a run: the calls in order, the track on which it ends or the fault
that ended it, and the world as it is then. -/
structure Transcript (World : Type) where
  calls : List Call
  ending : Except Fault (Outcome Value)
  world : World

/-- The transcript of a run that has made calls before. -/
def Transcript.behind (calls : List Call) (t : Transcript World) : Transcript World :=
  { t with calls := calls ++ t.calls }

/-- **What a pipeline should do**: it goes along the steps, the first of which has the position
`position`, with the current track. A step whose turn it is not is passed over; the function of
any other one is called, once, and what it gives is the next track, unless it is a fault. -/
inductive Runs : Nat → List (Step World) → Outcome Value → World → Transcript World → Prop where
  | done {position : Nat} {track : Outcome Value} {world : World} :
    Runs position [] track world ⟨[], .ok track, world⟩
  | skip {position : Nat} {step : Step World} {rest : List (Step World)}
    {track : Outcome Value} {world : World} {t : Transcript World}
    (hturn : step.turn? track = none) (hrest : Runs (position + 1) rest track world t) :
    Runs position (step :: rest) track world t
  | turn {position : Nat} {step : Step World} {rest : List (Step World)}
    {track next : Outcome Value} {world between : World} {t : Transcript World}
    {argument : Value ⊕ Failure} {act : Doing World (Outcome Value)}
    (hturn : step.turn? track = some (argument, act))
    (hact : act.on world = (.ok next, between))
    (hrest : Runs (position + 1) rest next between t) :
    Runs position (step :: rest) track world (t.behind [⟨position, argument⟩])
  | stop {position : Nat} {step : Step World} {rest : List (Step World)}
    {track : Outcome Value} {world after : World} {argument : Value ⊕ Failure}
    {act : Doing World (Outcome Value)} {fault : Fault}
    (hturn : step.turn? track = some (argument, act))
    (hact : act.on world = (.error fault, after)) :
    Runs position (step :: rest) track world ⟨[⟨position, argument⟩], .error fault, after⟩

variable {position : Nat} {steps : List (Step World)} {start track : Outcome Value}
  {world : World} {t : Transcript World}

/-- Every pipeline has a run. -/
theorem exists_runs (position : Nat) (steps : List (Step World)) (start : Outcome Value)
    (world : World) : ∃ t, Runs position steps start world t := by
  -- on the steps, with whatever track and world the ones before have left
  induction steps generalizing position start world with
  | nil => exact ⟨_, .done⟩
  | cons step rest ih =>
    cases hturn : step.turn? start with
    | none =>
      obtain ⟨t, ht⟩ := ih (position + 1) start world
      exact ⟨t, .skip hturn ht⟩
    | some turn =>
      obtain ⟨argument, act⟩ := turn
      rcases hact : act.on world with ⟨fault | next, between⟩
      · exact ⟨_, .stop hturn hact⟩
      · obtain ⟨t, ht⟩ := ih (position + 1) next between
        exact ⟨_, .turn hturn hact ht⟩

/-- **A pipeline does what it should.** -/
theorem Runs.run_on (h : Runs position steps start world t) :
    (run steps start).on world = (t.ending.map Value.ofOutcome, t.world) := by
  -- on the run: what is passed over does nothing, and a turn does what its step does
  induction h with
  | done => rfl
  | skip hturn _ ih =>
    rw [run, List.foldlM_cons, Step.take_ofOutcome, hturn, map_pure, pure_bind]
    exact ih
  | turn hturn hact _ ih =>
    rw [run, List.foldlM_cons, Step.take_ofOutcome, hturn, Doing.on_bind, Doing.on_map, hact]
    exact ih
  | stop hturn hact =>
    rw [run, List.foldlM_cons, Step.take_ofOutcome, hturn, Doing.on_bind, Doing.on_map, hact]
    rfl

/-! ### Calls on record -/

/-- A computation that takes a note before it begins. -/
def noting (call : Call) (x : Doing World α) : Doing (World × List Call) α :=
  fun (world, calls) => ((x.on world).1, ((x.on world).2, calls ++ [call]))

/-- The note is taken whatever the computation comes to. -/
theorem noting_on {α : Type} (call : Call) (x : Doing World α) (world : World)
    (calls : List Call) :
    (noting call x).on (world, calls) = ((x.on world).1, ((x.on world).2, calls ++ [call])) :=
  rfl

/-- What is done behind the call leaves the notes alone. -/
theorem noting_bind_on {α β : Type} {call : Call} {x : Doing World α} {result : α → Except Fault β}
    {g : α → Doing World β} {g' : α → Doing (World × List Call) β}
    (hg : ∀ a world, (g a).on world = (result a, world))
    (hg' : ∀ a world, (g' a).on world = (result a, world)) (world : World) (calls : List Call) :
    (noting call x >>= g').on (world, calls)
      = (((x >>= g).on world).1, (((x >>= g).on world).2, calls ++ [call])) := by
  rw [Doing.on_bind, Doing.on_bind, noting_on]
  rcases x.on world with ⟨fault | a, between⟩
  · rfl
  · simp only [hg, hg']

/-- A step whose function takes a note of each call. -/
def Step.noted (position : Nat) : Step World → Step (World × List Call)
  | .map f => .map fun v => noting ⟨position, .inl v⟩ (f v)
  | .flatMap f => .flatMap fun v => noting ⟨position, .inl v⟩ (f v)
  | .peek f => .peek fun v => noting ⟨position, .inl v⟩ (f v)
  | .peekFailure f => .peekFailure fun reason => noting ⟨position, .inr reason⟩ (f reason)

/-- Steps that take notes. -/
def noted (position : Nat) : List (Step World) → List (Step (World × List Call))
  | [] => []
  | step :: rest => step.noted position :: noted (position + 1) rest

/-- The steps of two pipelines are numbered through. -/
theorem noted_append (position : Nat) (before after : List (Step World)) :
    noted position (before ++ after)
      = noted position before ++ noted (position + before.length) after := by
  induction before generalizing position with
  | nil => rfl
  | cons step rest ih =>
    rw [List.cons_append, noted, noted, ih, List.cons_append, List.length_cons, Nat.add_assoc,
      Nat.add_comm 1]

/-- A step that takes notes has its turn when the step has. -/
theorem Step.turn?_noted_of_none (position : Nat) {step : Step World}
    (hturn : step.turn? track = none) : (step.noted position).turn? track = none := by
  cases step <;> cases track <;> first | rfl | cases hturn

/-- The turn of a step that takes notes is the turn of the step, and the note. -/
theorem Step.turn?_noted_of_some (position : Nat) {step : Step World}
    {argument : Value ⊕ Failure} {act : Doing World (Outcome Value)}
    (hturn : step.turn? track = some (argument, act)) :
    ∃ act', (step.noted position).turn? track = some (argument, act')
      ∧ ∀ world calls, act'.on (world, calls)
        = ((act.on world).1, ((act.on world).2, calls ++ [⟨position, argument⟩])) := by
  -- only the four turns are left, each of which notes the call before it is made
  cases step <;> cases track <;> cases hturn
  case map.ok.refl f v => exact ⟨_, rfl, noting_bind_on Doing.on_succeed Doing.on_succeed⟩
  case flatMap.ok.refl f v => exact ⟨_, rfl, noting_on _ _⟩
  case peek.ok.refl f v =>
    exact ⟨_, rfl, noting_bind_on (fun _ => Doing.on_pure _) fun _ => Doing.on_pure _⟩
  case peekFailure.error.refl f reason =>
    exact ⟨_, rfl, noting_bind_on (fun _ => Doing.on_pure _) fun _ => Doing.on_pure _⟩

/-- **Notes disturb nothing**, and they are the calls. -/
theorem Runs.noted (h : Runs position steps start world t) (calls : List Call) :
    Runs position (noted position steps) start (world, calls)
      ⟨t.calls, t.ending, (t.world, calls ++ t.calls)⟩ := by
  -- on the run, whose notes so far are whatever they are
  induction h generalizing calls with
  | done =>
    rw [List.append_nil]
    exact .done
  | skip hturn _ ih => exact .skip (Step.turn?_noted_of_none _ hturn) (ih calls)
  | @turn position _ _ _ _ world _ _ argument _ hturn hact _ ih =>
    obtain ⟨act', hturn', hact'⟩ := Step.turn?_noted_of_some position hturn
    have hnext := hact' world calls
    rw [hact] at hnext
    have hrest := ih (calls ++ [⟨position, argument⟩])
    rw [List.append_assoc] at hrest
    exact .turn hturn' hnext hrest
  | @stop position _ _ _ world _ _ _ _ hturn hact =>
    obtain ⟨act', hturn', hact'⟩ := Step.turn?_noted_of_some position hturn
    have hnext := hact' world calls
    rw [hact] at hnext
    exact .stop hturn' hnext

end Pipeline
end CertChain
