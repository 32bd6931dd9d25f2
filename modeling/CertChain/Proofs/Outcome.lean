import CertChain.Outcome
import Mathlib.Data.List.Forall2

/-!
# What comes of a computation

A computation in two steps succeeds when both of its steps do (`bind_ok_iff`) and goes wrong at
one of them (`bind_error_iff`), and one that goes along a list succeeds when all of its steps do
(`mapM_ok_iff`, `forM_ok_iff`, `mapM_eq_some_iff`). What is found in a table is one of its entries
(`mem_of_lookup`). What holds of the errors of all steps holds of those of the whole
(`ErrorsIn.bind`). What a caller sees of a failure is its code (`Outcome.FailsWith`), which is known
by its name (`ErrorCode.ofName_ok_iff`); the fault behind it is not looked at.
-/

namespace CertChain

/-- A successful computation in two steps. -/
theorem bind_ok {ε α β : Type} {x : Except ε α} {f : α → Except ε β} {b : β}
    (h : x >>= f = .ok b) : ∃ a, x = .ok a ∧ f a = .ok b := by
  cases x with
  | error e => cases h
  | ok a => exact ⟨a, rfl, h⟩

/-- A computation in two steps succeeds exactly if both steps do. -/
theorem bind_ok_iff {ε α β : Type} {x : Except ε α} {f : α → Except ε β} {b : β} :
    x >>= f = .ok b ↔ ∃ a, x = .ok a ∧ f a = .ok b := by
  constructor
  · exact bind_ok
  · rintro ⟨a, rfl, h⟩
    exact h

/-- A computation whose result is changed. -/
theorem map_ok_iff {ε α β : Type} {x : Except ε α} {g : α → β} {b : β} :
    (do return g (← x)) = (Except.ok b : Except ε β) ↔ ∃ a, x = .ok a ∧ b = g a := by
  rw [bind_ok_iff]
  constructor
  · rintro ⟨a, hx, hg⟩
    exact ⟨a, hx, (Except.ok.inj hg).symm⟩
  · rintro ⟨a, hx, rfl⟩
    exact ⟨a, hx, rfl⟩

/-- A computation in two steps that goes wrong does so at one of them. -/
theorem bind_error_iff {ε α β : Type} {x : Except ε α} {f : α → Except ε β} {e : ε} :
    x >>= f = .error e ↔ x = .error e ∨ ∃ a, x = .ok a ∧ f a = .error e := by
  cases x with
  | error e' =>
    constructor
    · intro h
      cases h
      exact .inl rfl
    · rintro (h | ⟨a, h, -⟩)
      · cases h
        rfl
      · cases h
  | ok a =>
    constructor
    · exact fun h => .inr ⟨a, rfl, h⟩
    · rintro (h | ⟨a', h, hf⟩)
      · cases h
      · cases h
        exact hf

/-- Two computations that begin alike go wrong alike where what follows does. -/
theorem bind_error_same {ε α β : Type} {x : Except ε α} {f g : α → Except ε β} {e : ε}
    (h : x >>= f = .error e) (hsame : ∀ a, f a = .error e → g a = .error e) :
    x >>= g = .error e := by
  -- either the first step goes wrong, which is the same one, or the second does
  rw [bind_error_iff] at h ⊢
  rcases h with h | ⟨a, hx, hf⟩
  · exact .inl h
  · exact .inr ⟨a, hx, hsame a hf⟩

/-- A success stays one when errors are renamed. -/
theorem mapError_ok {ε ε' α : Type} {complain : ε → ε'} {x : Except ε α} {a : α}
    (h : x.mapError complain = .ok a) : x = .ok a := by
  cases x with
  | error e => cases h
  | ok b =>
    cases h
    rfl

/-! ### What goes wrong -/

/-- **All errors of a computation** are of a certain sort. -/
def ErrorsIn {ε α : Type} (x : Except ε α) (P : ε → Prop) : Prop :=
  ∀ e, x = .error e → P e

section Errors

variable {ε α β : Type} {P : ε → Prop}

/-- A success has no errors. -/
theorem errorsIn_ok (a : α) : ErrorsIn (.ok a : Except ε α) P := by
  intro e he
  cases he

/-- An error is of the sort that it is of. -/
theorem errorsIn_error {e : ε} (h : P e) : ErrorsIn (.error e : Except ε α) P := by
  intro e' he
  cases he
  exact h

/-- The errors of two steps are of a sort if those of each step are. -/
theorem ErrorsIn.bind {x : Except ε α} {f : α → Except ε β} (hx : ErrorsIn x P)
    (hf : ∀ a, ErrorsIn (f a) P) : ErrorsIn (x >>= f) P := by
  cases x with
  | error e => exact errorsIn_error (hx e rfl)
  | ok a => exact hf a

end Errors

/-! ### Along a list -/

section Lists

variable {α β : Type}

/-- A computation along a list gives a list of results, member by member. -/
theorem mapM_ok_iff {ε : Type} {f : α → Except ε β} {as : List α} {bs : List β} :
    as.mapM f = .ok bs ↔ List.Forall₂ (fun a b => f a = .ok b) as bs := by
  -- on the list: the first step and then the others, each with its result
  induction as generalizing bs with
  | nil =>
    rw [List.mapM_nil, List.forall₂_nil_left_iff]
    constructor
    · intro h
      exact (Except.ok.inj h).symm
    · rintro rfl
      rfl
  | cons a as ih =>
    rw [List.mapM_cons, List.forall₂_cons_left_iff]
    constructor
    · intro h
      obtain ⟨b, hb, h⟩ := bind_ok h
      obtain ⟨rest, hrest, h⟩ := bind_ok h
      exact ⟨b, rest, hb, ih.mp hrest, (Except.ok.inj h).symm⟩
    · rintro ⟨b, rest, hb, hrest, rfl⟩
      rw [hb, ih.mpr hrest]
      rfl

/-- Steps that are checks succeed when all of them do. -/
theorem forM_ok_iff {ε : Type} {f : α → Except ε Unit} {as : List α} :
    as.forM f = .ok () ↔ ∀ a ∈ as, f a = .ok () := by
  induction as with
  | nil => exact ⟨fun _ => List.forall_mem_nil _, fun _ => rfl⟩
  | cons a as ih =>
    show (f a >>= fun _ => as.forM f) = .ok () ↔ _
    rw [List.forall_mem_cons, ← ih, bind_ok_iff]
    exact ⟨fun ⟨⟨⟩, ha, has⟩ => ⟨ha, has⟩, fun ⟨ha, has⟩ => ⟨(), ha, has⟩⟩

/-- The same of a computation that has no errors to give. -/
theorem mapM_eq_some_iff {f : α → Option β} {as : List α} {bs : List β} :
    as.mapM f = some bs ↔ List.Forall₂ (fun a b => f a = some b) as bs := by
  induction as generalizing bs with
  | nil =>
    rw [List.mapM_nil, List.forall₂_nil_left_iff]
    constructor
    · intro h
      exact (Option.some.inj h).symm
    · rintro rfl
      rfl
  | cons a as ih =>
    rw [List.mapM_cons, List.forall₂_cons_left_iff]
    constructor
    · intro h
      obtain ⟨b, hb, h⟩ := Option.bind_eq_some_iff.mp h
      obtain ⟨rest, hrest, h⟩ := Option.bind_eq_some_iff.mp h
      exact ⟨b, rest, hb, ih.mp hrest, (Option.some.inj h).symm⟩
    · rintro ⟨b, rest, hb, hrest, rfl⟩
      rw [hb, ih.mpr hrest]
      rfl

/-- Every member of a list has a partner if the list as a whole has one. -/
theorem exists_forall₂_iff {R : α → β → Prop} {as : List α} :
    (∃ bs, List.Forall₂ R as bs) ↔ ∀ a ∈ as, ∃ b, R a b := by
  induction as with
  | nil => exact ⟨fun _ => List.forall_mem_nil _, fun _ => ⟨[], .nil⟩⟩
  | cons a as ih =>
    rw [List.forall_mem_cons, ← ih]
    constructor
    · rintro ⟨bs, hbs⟩
      obtain ⟨b, rest, hb, hrest, -⟩ := List.forall₂_cons_left_iff.mp hbs
      exact ⟨⟨b, hb⟩, rest, hrest⟩
    · rintro ⟨⟨b, hb⟩, rest, hrest⟩
      exact ⟨b :: rest, .cons hb hrest⟩

/-- The last one of a list has the last one of the others for a partner. -/
theorem forall₂_snoc {R : α → β → Prop} {as : List α} {a : α} {cs : List β}
    (h : List.Forall₂ R (as ++ [a]) cs) :
    ∃ bs b, List.Forall₂ R as bs ∧ R a b ∧ cs = bs ++ [b] := by
  -- from the front, where the partners are known one by one
  induction as generalizing cs with
  | nil =>
    obtain ⟨b, rest, hb, hrest, rfl⟩ := List.forall₂_cons_left_iff.mp h
    cases hrest
    exact ⟨[], b, .nil, hb, rfl⟩
  | cons a' as ih =>
    obtain ⟨b', rest, hb', hrest, rfl⟩ := List.forall₂_cons_left_iff.mp h
    obtain ⟨bs, b, hbs, hb, rfl⟩ := ih hrest
    exact ⟨b' :: bs, b, .cons hb' hbs, hb, rfl⟩

/-- **What is found in a table is one of its entries**, so what all entries have in common holds of
what is found. -/
theorem mem_of_lookup [BEq α] [LawfulBEq α] {table : List (α × β)} {a : α} {b : β}
    (h : table.lookup a = some b) : (a, b) ∈ table := by
  obtain ⟨before, after, rfl, -⟩ := List.lookup_eq_some_iff.mp h
  exact List.mem_append_right before List.mem_cons_self

/-- What holds of all members of one list, said of their partners in another one. -/
theorem forall_mem_iff_of_forall₂ {R : α → β → Prop} {P : α → Prop} {Q : β → Prop}
    (hiff : ∀ a b, R a b → (P a ↔ Q b)) {as : List α} {bs : List β}
    (h : List.Forall₂ R as bs) : (∀ a ∈ as, P a) ↔ ∀ b ∈ bs, Q b := by
  induction h with
  | nil => exact ⟨fun _ => List.forall_mem_nil _, fun _ => List.forall_mem_nil _⟩
  | cons hab _ ih => rw [List.forall_mem_cons, List.forall_mem_cons, hiff _ _ hab, ih]

end Lists

namespace ErrorCode

/-- Codes have different names. -/
theorem name_injective {c d : ErrorCode} (h : c.name = d.name) : c = d := by
  cases c <;> cases d <;> first | rfl | simp [name] at h

/-- The code that is found by a name has this name. -/
theorem eq_of_find? {text : String} {code : ErrorCode}
    (h : (all.find? fun other => decide (other.name = text)) = some code) : code.name = text := by
  have hname := @List.find?_some _ (fun other : ErrorCode => decide (other.name = text)) _ _ h
  exact of_decide_eq_true hname

/-- **Codes are known by their names**, and no other text is a name of one. -/
theorem ofName_ok_iff {text : String} {code : ErrorCode} :
    ofName text = .ok code ↔ code.name = text := by
  unfold ofName
  constructor
  · intro h
    split at h
    · rename_i found hfound
      cases h
      exact eq_of_find? hfound
    · cases h
  · rintro rfl
    -- the first code with the name is the only one
    have hmem : code ∈ all := by cases code <;> decide
    have hsome : (all.find? fun other => decide (other.name = code.name)).isSome = true :=
      List.find?_isSome.mpr ⟨code, hmem, decide_eq_true rfl⟩
    obtain ⟨found, hfound⟩ := Option.isSome_iff_exists.mp hsome
    have hsame : found = code := name_injective (eq_of_find? hfound)
    rw [hfound, hsame]

end ErrorCode

namespace Outcome

variable {α : Type} {outcome : Outcome α} {code : ErrorCode}

/-- **A failure with a code.** -/
def FailsWith (outcome : Outcome α) (code : ErrorCode) : Prop :=
  ∃ f, outcome = .error f ∧ f.code = code

/-- A success fails with no code. -/
theorem not_failsWith_ok {a : α} : ¬ FailsWith (.ok a) code := by
  rintro ⟨f, hf, -⟩
  cases hf

end Outcome
end CertChain
