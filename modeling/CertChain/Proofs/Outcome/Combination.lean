import CertChain.Proofs.Outcome.Boundary
import CertChain.Proofs.Value.Comparison

/-!
# Two outcomes together

Combining is asymmetric. It looks at the first outcome and, if this is a success, at the second one;
only then is there anything to call the function with. Nine pairs of tracks come out in four ways,
and a call of the function in three. `Value.Combines` has a rule for each of these, and
`Value.combines_iff` says that they are what happens, calls included. An outcome in name only is a
fault where it is looked at, and nothing at all where it is not.

Apart from that the order hardly matters. With the arguments of the function exchanged the outcomes
can be as well, except that of two failures the first one is heard (`Value.combine_swap`).

Whoever combines a list of outcomes from the left gets its first failure, and otherwise what the
function makes of the values one after another (`Value.combineAll_on`). The invariant is that the
outcome up to here is the success of what the function has made so far, until there is a failure;
from then on nothing is done, as behind any failure in a chain (`Value.Chaining.run_failure`).
-/

namespace CertChain
namespace Value

variable {World : Type} {f : Value → Value → Doing World Value} {world : World}

/-! ### A pair of outcomes -/

/-- What there is to say of two outcomes that are combined: the calls of the function, the ending,
and the world as it is then. -/
structure Combination (World : Type) where
  calls : List (Value × Value)
  ending : Except Fault Value
  world : World

/-- **What combining should do.** The function is called if there are two successes, once, and with
the value of the first one in front. -/
inductive Combines (f : Value → Value → Doing World Value) (world : World) :
    Value → Value → Combination World → Prop where
  | firstFailure (reason : Failure) (b : Value) :
    Combines f world (.failure reason) b ⟨[], .ok (.failure reason), world⟩
  | firstUnformed (b : Value) :
    Combines f world .unformed b ⟨[], .error (.ofText Fault.Kind.type "unreachable"), world⟩
  | secondFailure (v : Value) (reason : Failure) :
    Combines f world (.success v) (.failure reason) ⟨[], .ok (.failure reason), world⟩
  | secondUnformed (v : Value) :
    Combines f world (.success v) .unformed
      ⟨[], .error (.ofText Fault.Kind.type "unreachable"), world⟩
  | value {v w u : Value} {after : World} (hcall : (f v w).on world = (.ok u, after))
    (hu : u ≠ .null) :
    Combines f world (.success v) (.success w) ⟨[(v, w)], .ok (.success u), after⟩
  | nothing {v w : Value} {after : World} (hcall : (f v w).on world = (.ok .null, after)) :
    Combines f world (.success v) (.success w)
      ⟨[(v, w)], .error (.ofText Fault.Kind.type "Success value must not be None"), after⟩
  | fault {v w : Value} {fault : Fault} {after : World}
    (hcall : (f v w).on world = (.error fault, after)) :
    Combines f world (.success v) (.success w) ⟨[(v, w)], .error fault, after⟩

/-- What comes of what the function gives. -/
def carried : Except Fault Value → Except Fault Value
  | .ok .null => .error Outcome.nullSuccess
  | .ok v => .ok (.success v)
  | .error fault => .error fault

/-- A value that is not null is carried. -/
theorem carried_value {v : Value} (h : v ≠ .null) : carried (.ok v) = .ok (.success v) := by
  cases v with
  | null => exact absurd rfl h
  | _ => rfl

/-- Of two successes there is the call of the function, and what comes of it. -/
theorem combine_success_on (f : Value → Value → Doing World Value) (v w : Value) (world : World) :
    (combine (.success v) (.success w) f).on world
      = (carried ((f v w).on world).1, ((f v w).on world).2) := by
  have hmap : combine (.success v) (.success w) f
      = ofOutcome <$> (f v w >>= fun u => Outcome.succeed u) := map_ofOutcome (.ok w) (f v)
  rw [hmap, Doing.on_map, Doing.on_bind]
  rcases (f v w).on world with ⟨fault | u, after⟩
  · rfl
  · simp only [Doing.on_succeed]
    cases u with
    | null => rfl
    | _ => rfl

/-- For two outcomes there is a rule. -/
theorem exists_combines {a b : Value} (ha : a.isOutcome = true) (hb : b.isOutcome = true)
    (f : Value → Value → Doing World Value) (world : World) : ∃ c, Combines f world a b c := by
  -- the first outcome decides alone, unless it is a success
  cases a with
  | failure reason => exact ⟨_, .firstFailure reason b⟩
  | unformed => exact ⟨_, .firstUnformed b⟩
  | success v =>
    cases b with
    | failure reason => exact ⟨_, .secondFailure v reason⟩
    | unformed => exact ⟨_, .secondUnformed v⟩
    | success w =>
      rcases hcall : (f v w).on world with ⟨fault | u, after⟩
      · exact ⟨_, .fault hcall⟩
      · by_cases hu : u = .null
        · rw [hu] at hcall
          exact ⟨_, .nothing hcall⟩
        · exact ⟨_, .value hcall hu⟩
    | _ => cases hb
  | _ => cases ha

/-- **The rules are right**: a combination ends as they say. -/
theorem Combines.on {a b : Value} {c : Combination World} (h : Combines f world a b c) :
    (combine a b f).on world = (c.ending, c.world) := by
  -- the rules with a call are about what the function gives, the others about the tracks
  cases h with
  | firstFailure reason b => rfl
  | firstUnformed b => rfl
  | secondFailure v reason => rfl
  | secondUnformed v => rfl
  | value hcall hu => rw [combine_success_on, hcall, carried_value hu]
  | nothing hcall =>
    rw [combine_success_on, hcall]
    rfl
  | fault hcall =>
    rw [combine_success_on, hcall]
    rfl

/-- The rules stay right when calls are noted, and the calls are what is noted. -/
theorem Combines.recorded {a b : Value} {c : Combination World} (h : Combines f world a b c) :
    Combines (fun v w => (f v w).recorded (v, w)) (world, []) a b
      ⟨c.calls, c.ending, (c.world, c.calls)⟩ := by
  cases h with
  | firstFailure reason b => exact .firstFailure reason b
  | firstUnformed b => exact .firstUnformed b
  | secondFailure v reason => exact .secondFailure v reason
  | secondUnformed v => exact .secondUnformed v
  | value hcall hu =>
    refine .value ?_ hu
    rw [Doing.recorded_on, hcall]
    rfl
  | nothing hcall =>
    refine .nothing ?_
    rw [Doing.recorded_on, hcall]
    rfl
  | fault hcall =>
    refine .fault ?_
    rw [Doing.recorded_on, hcall]
    rfl

/-- **The rules are all that happens**: a combination of outcomes whose calls are noted is one that
the rules describe. -/
theorem combines_iff {a b : Value} (ha : a.isOutcome = true) (hb : b.isOutcome = true)
    (c : Combination World) :
    Combines f world a b c ↔ (combine a b fun v w => (f v w).recorded (v, w)).on (world, [])
      = (c.ending, (c.world, c.calls)) := by
  constructor
  · exact fun h => h.recorded.on
  · intro hc
    -- there is a rule, and what it says is what happens
    obtain ⟨other, hother⟩ := exists_combines ha hb f world
    have hsame := hother.recorded.on.symm.trans hc
    rcases c with ⟨calls, ending, after⟩
    rcases other with ⟨calls', ending', after'⟩
    cases hsame
    exact hother

/-! ### The other way round -/

/-- **The same to whoever handles it**: the same ending, or failures that agree. -/
def EndsLike (there back : Except Fault Value) : Prop :=
  there = back ∨ ∃ reason other, there = .ok (.failure reason) ∧ back = .ok (.failure other)
    ∧ reason.agrees other = true

/-- **Outcomes can change places** if the arguments do, unless they are failures that disagree. -/
theorem combine_swap (a b : Outcome Value) (f : Value → Value → Doing World Value) (world : World) :
    let there := (combine (ofOutcome a) (ofOutcome b) f).on world
    let back := (combine (ofOutcome b) (ofOutcome a) fun w v => f v w).on world
    there.2 = back.2 ∧ (EndsLike there.1 back.1
      ↔ ∀ reason other, a = .error reason → b = .error other → reason.agrees other = true) := by
  intro there back
  -- four cases; only where both are failures the order can be heard
  rcases a with first | v
  · rcases b with second | w
    · -- each order hears the failure that it has in front
      have hthere : there = (.ok (.failure first), world) := rfl
      have hback : back = (.ok (.failure second), world) := rfl
      rw [hthere, hback]
      refine ⟨rfl, ?_, ?_⟩
      · rintro (hsame | ⟨reason, other, hreason, hother, hagrees⟩) _ _ hfirst hsecond
        · cases hsame
          cases hfirst
          cases hsecond
          rw [Failure.agrees, beq_self_eq_true, beq_self_eq_true]
          rfl
        · cases hreason
          cases hother
          cases hfirst
          cases hsecond
          exact hagrees
      · intro hagrees
        exact .inr ⟨first, second, rfl, rfl, hagrees first second rfl rfl⟩
    · refine ⟨rfl, fun _ _ _ _ hb => ?_, fun _ => .inl rfl⟩
      cases hb
  · have hsame : there = back := by
      rcases b with second | w
      · rfl
      · show (combine (.success v) (.success w) f).on world
          = (combine (.success w) (.success v) fun w v => f v w).on world
        rw [combine_success_on, combine_success_on]
    rw [hsame]
    refine ⟨rfl, fun _ _ _ ha => ?_, fun _ => .inl rfl⟩
    cases ha

/-! ### A list of outcomes -/

/-- A function that always gives something. -/
def AlwaysGives (f : Value → Value → Doing World Value) : Prop :=
  ∀ v w world, ∃ u after, (f v w).on world = (.ok u, after) ∧ u ≠ .null

/-- Outcomes combined from the left. -/
def combineAll (f : Value → Value → Doing World Value) (start : Value)
    (results : List (Outcome Value)) : Doing World Value :=
  results.foldlM (fun v result => combine v (ofOutcome result) f) start

/-- Behind a failure nothing is done. -/
theorem combineAll_failure (f : Value → Value → Doing World Value) (reason : Failure)
    (results : List (Outcome Value)) :
    combineAll f (.failure reason) results = pure (.failure reason) := by
  -- behind a failure the list is a chain of operations like others
  have hchain := Chaining.run_failure
    (results.map fun result => Chaining.combine (ofOutcome result) f) reason
  rw [Chaining.run, List.foldlM_map] at hchain
  exact hchain

/-- **The first failure counts**, and without one all values do. -/
theorem combineAll_on (hf : AlwaysGives f) (start : Value) (results : List (Outcome Value))
    (world : World) :
    ∃ (values : List Value) (u : Value) (after : World),
      (values.foldlM f start).on world = (.ok u, after)
      ∧ ((results = values.map .ok
          ∧ (combineAll f (.success start) results).on world = (.ok (.success u), after))
        ∨ ∃ reason rest, results = values.map .ok ++ .error reason :: rest
          ∧ (combineAll f (.success start) results).on world = (.ok (.failure reason), after)) := by
  -- on the list, with whatever value and world the outcomes before have left
  induction results generalizing start world with
  | nil => exact ⟨[], start, world, rfl, .inl ⟨rfl, rfl⟩⟩
  | cons result rest ih =>
    rcases result with reason | v
    · refine ⟨[], start, world, rfl, .inr ⟨reason, rest, rfl, ?_⟩⟩
      show (combineAll f (.failure reason) rest).on world = _
      rw [combineAll_failure, Doing.on_pure]
    · -- the function makes one more value of the two, and the list goes on from there
      obtain ⟨next, between, hcall, hnext⟩ := hf start v world
      have hstep : (combine (.success start) (ofOutcome (.ok v)) f).on world
          = (.ok (.success next), between) := (Combines.value hcall hnext).on
      have hfold : (combineAll f (.success start) (.ok v :: rest)).on world
          = (combineAll f (.success next) rest).on between := by
        rw [combineAll, List.foldlM_cons, Doing.on_bind, hstep]
        rfl
      obtain ⟨values, u, after, hvalues, hends⟩ := ih next between
      refine ⟨v :: values, u, after, ?_, ?_⟩
      · rw [List.foldlM_cons, Doing.on_bind, hcall]
        exact hvalues
      · rw [hfold]
        rcases hends with ⟨hall, hend⟩ | ⟨reason, others, hall, hend⟩
        · exact .inl ⟨congrArg (.ok v :: ·) hall, hend⟩
        · exact .inr ⟨reason, others, congrArg (.ok v :: ·) hall, hend⟩

/-! ### All that there is to it -/

/-- **Combining in full**: what happens to a pair, with the calls of the function; what is left of
it when the two change places; and what comes of a list if the function always gives something. -/
theorem combine_exact (f : Value → Value → Doing World Value) (world : World) :
    (∀ a b : Value, a.isOutcome = true → b.isOutcome = true → ∀ c : Combination World,
      ((combine a b fun v w => (f v w).recorded (v, w)).on (world, [])
          = (c.ending, (c.world, c.calls)) ↔ Combines f world a b c)
        ∧ (Combines f world a b c → (combine a b f).on world = (c.ending, c.world)))
    ∧ (∀ a b : Outcome Value,
        let there := (combine (ofOutcome a) (ofOutcome b) f).on world
        let back := (combine (ofOutcome b) (ofOutcome a) fun w v => f v w).on world
        there.2 = back.2 ∧ (EndsLike there.1 back.1
          ↔ ∀ reason other, a = .error reason → b = .error other → reason.agrees other = true))
    ∧ (AlwaysGives f → ∀ start results,
        ∃ (values : List Value) (u : Value) (after : World),
          (values.foldlM f start).on world = (.ok u, after)
          ∧ ((results = values.map .ok
              ∧ (combineAll f (.success start) results).on world = (.ok (.success u), after))
            ∨ ∃ reason rest, results = values.map .ok ++ .error reason :: rest
              ∧ (combineAll f (.success start) results).on world
                = (.ok (.failure reason), after))) := by
  refine ⟨?_, fun a b => combine_swap a b f world, ?_⟩
  · intro a b ha hb c
    exact ⟨(combines_iff ha hb c).symm, Combines.on⟩
  · intro hf start results
    exact combineAll_on hf start results world

/-- A pair of successes, a failure in front of what is no outcome, a failure that changes places
with a success, and a list with a failure in it. -/
theorem combine_exact_samples :
    let f : Value → Value → Doing Nat Value := fun v w => fun n => (.ok (.list [v, w]), n + 1)
    let reason := Failure.plain .ioError "m"
    let there := (combine (.success (.int 1)) (.failure reason) f).on 0
    let back := (combine (.failure reason) (.success (.int 1)) fun w v => f v w).on 0
    (combine (.success (.int 1)) (.success (.int 2)) fun v w => (f v w).recorded (v, w)).on (0, [])
      = (.ok (.success (.list [.int 1, .int 2])), (1, [(.int 1, .int 2)]))
    ∧ (combine (.failure reason) .unformed f).on 0 = (.ok (.failure reason), 0)
    ∧ EndsLike there.1 back.1
    ∧ (combineAll f (.success (.int 1)) [.ok (.int 2), .error reason, .ok (.int 3)]).on 0
      = (.ok (.failure reason), 1) := by
  intro f reason there back
  obtain ⟨hpair, hswap, hlist⟩ := combine_exact f 0
  refine ⟨?_, ?_, ?_, ?_⟩
  · exact (hpair _ _ rfl rfl ⟨[(.int 1, .int 2)], .ok (.success (.list [.int 1, .int 2])), 1⟩).1.mpr
      (.value rfl (fun h => nomatch h))
  · exact (hpair (.failure reason) .unformed rfl rfl ⟨[], .ok (.failure reason), 0⟩).2
      (.firstFailure reason .unformed)
  · exact (hswap (.ok (.int 1)) (.error reason)).2.mpr fun _ _ h => nomatch h
  · have hgives : AlwaysGives f := fun v w n => ⟨.list [v, w], n + 1, rfl, fun h => nomatch h⟩
    obtain ⟨values, u, after, hvalues, ⟨hall, -⟩ | ⟨other, rest, hfirst, hend⟩⟩ :=
      hlist hgives (.int 1) [.ok (.int 2), .error reason, .ok (.int 3)]
    · -- one of the outcomes is no value
      have hmem : Except.error reason ∈ values.map (Except.ok : Value → Outcome Value) := by
        rw [← hall]
        exact List.mem_cons_of_mem _ List.mem_cons_self
      obtain ⟨v, -, hv⟩ := List.mem_map.mp hmem
      cases hv
    · match values, hfirst with
      | [v], hfirst =>
        cases hfirst
        cases hvalues
        exact hend

end Value
end CertChain
