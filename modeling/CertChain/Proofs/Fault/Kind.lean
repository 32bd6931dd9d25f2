import CertChain.Fault.Arguments
import CertChain.Proofs.Outcome

/-!
# Which faults there are

Most kinds of faults are built in and known by their names; the others derive from a known kind, in
a module and under a name of their own (`Fault.Kind.Known`). Whether handlers take a fault is
handed down in the same way. Five of the built-in kinds are departures, and so is what derives from
a departure (`Fault.isDeparture_iff`).

A fault is made from a kind and from arguments, some of which it may refuse
(`Fault.Head.Made`). What is made is of a known kind again (`Fault.Head.Made.known`) and is no group
of faults, since data have no faults among them (`Fault.Head.Made.root_ne_group`). A fault that is
made once more from what it has kept is the same (`Fault.settle_settle`).
-/

namespace CertChain
namespace Fault

/-- The first character of a text, and a blank if there is none. -/
def firstChar (s : String) : Char :=
  s.toList.headD ' '

/-! ### Kinds -/

namespace Kind

/-- **The kinds that there are**: those that are built in, the two that belong to signatures, and
those that derive from another one. A kind that derives has the name of a thing, so it does not
begin with a blank. -/
inductive Known : Kind → Prop where
  | builtin {name : String} (h : name ∈ builtinNames) : Known (.ofName name)
  | invalidSignature : Known .invalidSignature
  | unsupportedAlgorithm : Known .unsupportedAlgorithm
  | derived {base : Kind} (h : Known base) (home name : String) (wording : Wording)
    (hname : firstChar (derived base home name wording).traceName ≠ ' ') :
    Known (.derived base home name wording)

/-- **The kinds that no handler takes**: five that are built in, and what derives from them. -/
inductive Leaves : Kind → Prop where
  | builtin {name : String} (h : name ∈ ["BaseException", "BaseExceptionGroup", "GeneratorExit",
      "KeyboardInterrupt", "SystemExit"]) : Leaves (.ofName name)
  | derived {base : Kind} (h : Leaves base) (home name : String) (wording : Wording) :
    Leaves (.derived base home name wording)

variable {kind : Kind}

/-- Of the built-in kinds no others than the five are departures. -/
theorem leaves_ofName : ∀ name ∈ builtinNames, (ofName name).isDeparture = true →
    name ∈ ["BaseException", "BaseExceptionGroup", "GeneratorExit", "KeyboardInterrupt",
      "SystemExit"] := by
  decide +kernel

/-- What is on the list, or derives from it, is a departure. -/
theorem Leaves.isDeparture (h : kind.Leaves) : kind.isDeparture = true := by
  -- the built-in names are a finite table, and everything else is handed down
  induction h with
  | @builtin name h =>
    have hall : ∀ name ∈ ["BaseException", "BaseExceptionGroup", "GeneratorExit",
        "KeyboardInterrupt", "SystemExit"], (ofName name).isDeparture = true := by
      decide +kernel
    exact hall name h
  | derived _ home name wording ih => exact ih

/-- A departure is on the list, or derives from it. -/
theorem Known.leaves (h : kind.Known) (hdeparture : kind.isDeparture = true) : kind.Leaves := by
  induction h with
  | @builtin name h => exact .builtin (leaves_ofName name h hdeparture)
  | invalidSignature => cases hdeparture
  | unsupportedAlgorithm => cases hdeparture
  | derived _ home name wording _ ih => exact .derived (ih hdeparture) home name wording

/-- **A trace calls no kind by a name that begins with a blank.** -/
theorem Known.firstChar_traceName (h : kind.Known) : firstChar kind.traceName ≠ ' ' := by
  cases h with
  | @builtin name h =>
    have hall : ∀ name ∈ builtinNames, firstChar (ofName name).traceName ≠ ' ' := by
      decide +kernel
    exact hall name h
  | invalidSignature => decide
  | unsupportedAlgorithm => decide
  | derived _ home name wording hname => exact hname

end Kind

/-- **Departures are known by their kinds.** -/
theorem isDeparture_iff {fault : Fault} (h : fault.head.kind.Known) :
    fault.isDeparture = true ↔ fault.head.kind.Leaves :=
  ⟨h.leaves, Kind.Leaves.isDeparture⟩

/-! ### Refusals by the system -/

namespace Kind

/-- A refusal by the system has one of the names of such refusals. -/
def Listed : Kind → Prop
  | .system name => name ∈ systemNames
  | _ => True

instance : DecidablePred Listed
  | .system name => inferInstanceAs (Decidable (name ∈ systemNames))
  | .key | .invalidSignature | .unsupportedAlgorithm | .malformed _ | .undecodable
  | .unencodable | .untranslatable | .group _ | .departure _ | .named _ | .derived .. =>
    .isTrue trivial

/-- Of the kinds that there are, only those on the list are refusals by the system. -/
theorem Known.listed {kind : Kind} (h : kind.Known) : kind.Listed := by
  cases h with
  | @builtin name h =>
    have hall : ∀ name ∈ builtinNames, (ofName name).Listed := by decide +kernel
    exact hall name h
  | invalidSignature => exact trivial
  | unsupportedAlgorithm => exact trivial
  | derived _ home name wording _ => exact trivial

/-- A refusal by the system is a built-in kind. -/
theorem known_system {name : String} (h : name ∈ systemNames) : (system name).Known := by
  have hall : ∀ name ∈ systemNames, ofName name = system name ∧ name ∈ builtinNames := by
    decide +kernel
  obtain ⟨hkind, hbuiltin⟩ := hall name h
  rw [← hkind]
  exact .builtin hbuiltin

/-- The name that an error number stands for is one of a refusal by the system. -/
theorem ofErrorNumber?_mem {n : Int} {name : String} (h : ofErrorNumber? n = some name) :
    name ∈ systemNames := by
  have hall : ∀ entry ∈ errorNumbers, entry.2 ∈ systemNames := by decide +kernel
  exact hall (n, name) (mem_of_lookup h)

end Kind

variable {name : String} {number : Datum} {rest args kept : List Datum} {kind made : Kind}

/-- A name that has been found is found again. -/
theorem systemName_systemName :
    systemName (systemName name number rest) number rest = systemName name number rest := by
  unfold systemName
  -- only the most general name is replaced, and what replaces it is either itself or not replaced
  -- any more
  by_cases hplain : name = "OSError" ∧ rest.length ≤ 3
  · rw [if_pos hplain]
    cases number.number?.bind Kind.ofErrorNumber? with
    | none => rw [Option.getD_none, if_pos hplain, Option.getD_none]
    | some other =>
      rw [Option.getD_some, Option.getD_some]
      exact ite_self other
  · rw [if_neg hplain, if_neg hplain]

/-- Whatever a refusal by the system is renamed to, it remains one. -/
theorem systemName_mem (h : name ∈ Kind.systemNames) :
    systemName name number rest ∈ Kind.systemNames := by
  unfold systemName
  by_cases hplain : name = "OSError" ∧ rest.length ≤ 3
  · rw [if_pos hplain]
    cases hfound : number.number?.bind Kind.ofErrorNumber? with
    | none => exact h
    | some other =>
      obtain ⟨n, -, hn⟩ := Option.bind_eq_some_iff.mp hfound
      exact Kind.ofErrorNumber?_mem hn
  · rw [if_neg hplain]
    exact h

/-! ### What is made -/

/-- **What a fault says of itself when it is made**: its kind is known, and its arguments are what
the kind keeps of some arguments. -/
def Head.Made (h : Head) : Prop :=
  ∃ kind args, kind.Known ∧ settle kind args = .ok (h.kind, h.args)

/-- The two ways to be made: by the system, or by the rules of a kind. -/
inductive Settles : Kind → List Datum → Kind → List Datum → Prop where
  | few {name : String} {args : List Datum} (h : args.length < 2) :
    Settles (.system name) args (.system name) args
  | system {name : String} {number text : Datum} {rest : List Datum}
    (h : checkProgress (.system (systemName name number rest)) rest = .ok ()) :
    Settles (.system name) (number :: text :: rest) (.system (systemName name number rest))
      (number :: text :: rest)
  | kept {kind : Kind} {args kept : List Datum} (hkind : ∀ name, kind ≠ .system name)
    (h : keep kind.root args = .ok kept) : Settles kind args kind kept

/-- The two ways to be made are all that there are. -/
theorem settle_iff : settle kind args = .ok (made, kept) ↔ Settles kind args made kept := by
  constructor
  · intro h
    -- the system has rules of its own about the first two arguments, and all other kinds share one
    by_cases hsystem : ∃ name, kind = .system name
    · obtain ⟨name, rfl⟩ := hsystem
      rw [settle] at h
      unfold settleSystem at h
      split at h
      · obtain ⟨⟨⟩, hcheck, hmade⟩ := bind_ok h
        cases hmade
        exact .system hcheck
      · rename_i hfew
        cases h
        refine .few ?_
        rcases args with _ | ⟨a, _ | ⟨b, rest⟩⟩
        · exact Nat.zero_lt_two
        · exact Nat.one_lt_two
        · exact absurd rfl (hfew a b rest)
    · have hother : ∀ name, kind ≠ .system name := fun name hname => hsystem ⟨name, hname⟩
      unfold settle at h
      split at h
      · exact absurd rfl (hother _)
      · obtain ⟨args', hkeep, hmade⟩ := bind_ok h
        cases hmade
        exact .kept hother hkeep
  · intro h
    cases h with
    | few h =>
      rcases args with _ | ⟨a, _ | ⟨b, rest⟩⟩
      · rfl
      · rfl
      · exact absurd h (Nat.not_lt.mpr (Nat.le_add_left 2 rest.length))
    | system h =>
      rw [settle, settleSystem, h]
      rfl
    | kept hkind h =>
      unfold settle
      split
      · exact absurd rfl (hkind _)
      · rw [h]
        rfl

/-- What is kept is kept again. -/
theorem keep_keep {root : Kind} (h : keep root args = .ok kept) : keep root kept = .ok kept := by
  -- most kinds keep what they are given, and those that check their arguments keep what passes the
  -- check
  cases root with
  | unsupportedAlgorithm =>
    show settleAlgorithm kept = .ok kept
    rw [keep, settleAlgorithm.eq_def] at h
    split at h
    · cases h
    · split at h
      · cases h
        rfl
      · cases h
  | malformed name =>
    obtain ⟨⟨⟩, hcheck, hkept⟩ := bind_ok h
    cases hkept
    exact h
  | unencodable =>
    obtain ⟨⟨⟩, hcheck, hkept⟩ := bind_ok h
    cases hkept
    exact h
  | untranslatable =>
    obtain ⟨⟨⟩, hcheck, hkept⟩ := bind_ok h
    cases hkept
    exact h
  | undecodable =>
    obtain ⟨⟨⟩, hcheck, hkept⟩ := bind_ok h
    cases hkept
  | group name => cases h
  | _ =>
    cases h
    rfl

/-- **A fault that is made again is the same.** -/
theorem settle_settle (h : settle kind args = .ok (made, kept)) :
    settle made kept = .ok (made, kept) := by
  rw [settle_iff] at h
  cases h with
  | few h => exact settle_iff.mpr (.few h)
  | @system name number text rest h =>
    -- the name under which it was made is found again, so the check is about the same kind
    have hname := @systemName_systemName name number rest
    rw [← hname] at h
    have hagain := settle_iff.mpr (@Settles.system _ number text rest h)
    rw [hname] at hagain
    exact hagain
  | kept hkind h => exact settle_iff.mpr (.kept hkind (keep_keep h))

namespace Head

variable {h : Head}

/-- What is made is of a kind that there is. -/
theorem Made.known (hmade : h.Made) : h.kind.Known := by
  obtain ⟨kind, args, hknown, hsettle⟩ := hmade
  -- the kind and the arguments become variables, to be taken apart as what was made
  generalize h.kind = made at hsettle
  generalize h.args = kept at hsettle
  rw [settle_iff] at hsettle
  cases hsettle with
  | few _ => exact hknown
  | system _ => exact Kind.known_system (systemName_mem hknown.listed)
  | kept _ _ => exact hknown

/-- What is made is what its kind keeps. -/
theorem Made.keep_eq (hmade : h.Made) : keep h.kind.root h.args = .ok h.args := by
  obtain ⟨kind, args, -, hsettle⟩ := hmade
  generalize h.kind = made at hsettle ⊢
  generalize h.args = kept at hsettle ⊢
  rw [settle_iff] at hsettle
  cases hsettle with
  | few _ => rfl
  | system _ => rfl
  | kept _ hkeep => exact keep_keep hkeep

/-- **No group of faults is made**, because its members would be among the arguments. -/
theorem Made.root_ne_group (hmade : h.Made) (name : String) : h.kind.root ≠ .group name := by
  intro hgroup
  have hkeep := hmade.keep_eq
  rw [hgroup] at hkeep
  cases hkeep

end Head

end Fault
end CertChain
