import CertChain.Value
import Mathlib.Data.Bool.Basic
import Mathlib.Logic.Basic

/-!
# Values that are the same

`Value.same` goes through two values at once, and by its definition it is not even plain that it is
symmetric: nine kinds of values meet nine, some of them in lists in outcomes in lists. What it
comes to is simpler. Two things about a value do not count, what is behind its failures and
whether its numbers are written as truth values. Without them (`Value.essence`) values are the
same exactly if they are equal (`Value.same_iff`), so sameness is an equivalence for the same
reason as equality is one (`Value.equivalence_same`).

This is about values in which everything is on a track (`Value.Formed`). An unformed value is not
the same as itself, and no equality can express that. What is behind failures does not count in
other values either (`Value.same_stripped`).

The hash of a value goes down through successes and looks at nothing else, least of all into a
list. So values that are the same have equal hashes, or the same reason to have none
(`Value.hashed_eq_of_same`), and which values have none can be told from what is found at the
bottom (`Value.unhashable_iff`).
-/

namespace CertChain

/-- Failures agree if they are equal but for what is behind them. -/
theorem Failure.agrees_iff {f g : Failure} :
    f.agrees g = true ↔ plain f.code f.message = plain g.code g.message := by
  simp [agrees, plain]

namespace Value

/-! ### Formed values -/

/-- **A formed value**: plain data, and outcomes that carry formed values or a failure. -/
inductive Formed : Value → Prop where
  | null : Formed .null
  | bool (b : Bool) : Formed (.bool b)
  | int (n : Int) : Formed (.int n)
  | text (s : String) : Formed (.text s)
  | list {items : List Value} (h : ∀ v ∈ items, Formed v) : Formed (.list items)
  | success {v : Value} (h : Formed v) : Formed (.success v)
  | failure (f : Failure) : Formed (.failure f)

/-! ### What does not count -/

mutual

/-- **A value without what is behind its failures**: at any depth a failure is left with its code
and its message. -/
def stripped : Value → Value
  | .list items => .list (strippedAll items)
  | .success v => .success (stripped v)
  | .failure f => .failure (.plain f.code f.message)
  | v => v

/-- Values without what is behind their failures. -/
def strippedAll : List Value → List Value
  | [] => []
  | v :: rest => stripped v :: strippedAll rest

end

mutual

/-- **A value without truth values**, which are replaced by the numbers that they are. -/
def numeric : Value → Value
  | .bool b => .int b.toNat
  | .list items => .list (numericAll items)
  | .success v => .success (numeric v)
  | v => v

/-- Values without truth values. -/
def numericAll : List Value → List Value
  | [] => []
  | v :: rest => numeric v :: numericAll rest

end

/-- **What counts of a value.** -/
def essence (v : Value) : Value :=
  v.stripped.numeric

/-- What counts of the values in a list. -/
def essences (items : List Value) : List Value :=
  numericAll (strippedAll items)

section Equations

variable (v : Value) (items : List Value)

@[simp] theorem essence_null : essence .null = .null := rfl

@[simp] theorem essence_bool (b : Bool) : essence (.bool b) = .int b.toNat := rfl

@[simp] theorem essence_int (n : Int) : essence (.int n) = .int n := rfl

@[simp] theorem essence_text (s : String) : essence (.text s) = .text s := rfl

@[simp] theorem essence_list : essence (.list items) = .list (essences items) := by
  rw [essence, stripped, numeric, essences]

@[simp] theorem essence_success : essence (.success v) = .success (essence v) := by
  rw [essence, stripped, numeric, essence]

@[simp] theorem essence_failure (f : Failure) :
    essence (.failure f) = .failure (.plain f.code f.message) := rfl

@[simp] theorem essences_nil : essences [] = [] := rfl

@[simp] theorem essences_cons : essences (v :: items) = essence v :: essences items := by
  rw [essences, strippedAll, numericAll, essence, essences]

end Equations

/-- Values that are equal but for what is behind their failures have the same essence. -/
theorem essence_of_stripped {a b : Value} (h : a.stripped = b.stripped) :
    essence a = essence b := by
  rw [essence, h, essence]

/-! ### Sameness -/

/-- Lists are the same if what counts of their items is equal, as soon as this holds for the
items. -/
theorem sameAll_iff {xs ys : List Value}
    (h : ∀ x ∈ xs, ∀ y ∈ ys, same x y = true ↔ essence x = essence y) :
    sameAll xs ys = true ↔ essences xs = essences ys := by
  -- item by item, as long as both lists have one
  induction xs generalizing ys with
  | nil => cases ys <;> simp [sameAll]
  | cons x xs ih =>
    cases ys with
    | nil => simp [sameAll]
    | cons y ys =>
      have hd : same x y = true ↔ essence x = essence y := h x (.head _) y (.head _)
      have tl : sameAll xs ys = true ↔ essences xs = essences ys :=
        ih fun x' hx y' hy => h x' (.tail _ hx) y' (.tail _ hy)
      rw [sameAll, Bool.and_eq_true, hd, tl, essences_cons, essences_cons, List.cons.injEq]

/-- **Values are the same if what counts of them is equal.** -/
theorem same_iff {a b : Value} (ha : Formed a) (hb : Formed b) :
    same a b = true ↔ essence a = essence b := by
  -- on the first value; the second one has to be of the same kind, or both sides are false
  induction ha generalizing b with
  | list h ih =>
    cases hb with
    | list hb =>
      have items := sameAll_iff fun x hx y hy => ih x hx (hb y hy)
      simpa [same] using items
    | _ => simp [same]
  | success h ih =>
    cases hb with
    | success hb => simpa [same] using ih hb
    | _ => simp [same]
  | bool a =>
    cases hb with
    | bool b => cases a <;> cases b <;> simp [same]
    | _ => simp [same]
  | failure f => cases hb <;> simp [same, Failure.agrees_iff]
  | _ => cases hb <;> simp [same]

/-- **Sameness of formed values is an equivalence**, since equality is. -/
theorem equivalence_same :
    Equivalence fun a b : { v : Value // Formed v } => same a b = true where
  refl a := (same_iff a.2 a.2).mpr rfl
  symm {a b} h := (same_iff b.2 a.2).mpr ((same_iff a.2 b.2).mp h).symm
  trans {a b c} hab hbc :=
    (same_iff a.2 c.2).mpr (((same_iff a.2 b.2).mp hab).trans ((same_iff b.2 c.2).mp hbc))

mutual

/-- **What is behind failures does not count**, at whatever depth, and whatever else there is. -/
theorem same_stripped : ∀ a b : Value, same a.stripped b.stripped = same a b
  | .list xs, b => by
    cases b with
    | list ys => simpa [stripped, same] using sameAll_stripped xs ys
    | _ => simp [stripped, same]
  | .success a, b => by
    cases b with
    | success b => simpa [stripped, same] using same_stripped a b
    | _ => simp [stripped, same]
  | .failure f, b => by cases b <;> simp [stripped, same, Failure.agrees, Failure.plain]
  | .null, b | .bool _, b | .int _, b | .text _, b | .description _, b | .unformed, b => by
    cases b <;> simp [stripped, same]

/-- The same of the items of two lists. -/
theorem sameAll_stripped :
    ∀ xs ys : List Value, sameAll (strippedAll xs) (strippedAll ys) = sameAll xs ys
  | [], ys => by cases ys <;> simp [strippedAll, sameAll]
  | _ :: _, [] => by simp [strippedAll, sameAll]
  | x :: xs, y :: ys => by
    rw [strippedAll, strippedAll, sameAll, sameAll, same_stripped x y, sameAll_stripped xs ys]

end

/-! ### Hashes -/

/-- **Values that are the same have the same hash**, or none for the same reason. -/
theorem hashed_eq_of_same : ∀ {a b : Value}, same a b = true → hashed a = hashed b
  | .success a, b, h => by
    cases b with
    | success b =>
      have carried : hashed a = hashed b := hashed_eq_of_same (by simpa [same] using h)
      rw [hashed, hashed, carried]
    | _ => simp [same] at h
  | .null, b, h | .bool _, b, h | .int _, b, h | .text _, b, h | .list _, b, h
  | .failure _, b, h | .description _, b, h | .unformed, b, h => by
    cases b <;> simp_all [same, hashed, Failure.agrees]

/-- **Values without a hash**: at the bottom, below all successes, there is a list or an unformed
value. -/
inductive Unhashable : Value → Prop where
  | list (items : List Value) : Unhashable (.list items)
  | unformed : Unhashable .unformed
  | success {v : Value} (h : Unhashable v) : Unhashable (.success v)

/-- Unhashable values name what it is that has no hash. -/
theorem Unhashable.hashed {v : Value} (h : Unhashable v) :
    ∃ kind, v.hashed = .error (unhashable kind) := by
  -- down to the bottom, where the fault comes from
  induction h with
  | list items => exact ⟨"list", by rw [Value.hashed]⟩
  | unformed => exact ⟨"Result", by rw [Value.hashed]⟩
  | success _ ih =>
    obtain ⟨kind, refused⟩ := ih
    exact ⟨kind, by rw [Value.hashed, refused]; rfl⟩

/-- A value has a hash or is unhashable. -/
theorem hashed_or_unhashable : ∀ v : Value, (∃ n, hashed v = .ok n) ∨ Unhashable v
  | .success v => by
    obtain ⟨n, carried⟩ | h := hashed_or_unhashable v
    · exact .inl ⟨mixHash 3 n, by rw [hashed, carried]; rfl⟩
    · exact .inr (.success h)
  | .list items => .inr (.list items)
  | .unformed => .inr .unformed
  | .null | .bool _ | .int _ | .text _ | .failure _ | .description _ => .inl ⟨_, by rw [hashed]⟩

/-- **To ask for a hash is a fault of its type exactly if the value is unhashable**; in all other
cases there is a hash. -/
theorem unhashable_iff (v : Value) :
    (Unhashable v ↔ ∃ fault, hashed v = .error fault ∧ fault.head.kind = Fault.Kind.type)
      ∧ (¬ Unhashable v ↔ ∃ n, hashed v = .ok n) := by
  -- the two cases exclude each other, so one of them decides both statements
  obtain ⟨n, given⟩ | h := hashed_or_unhashable v
  · have hashable : ¬ Unhashable v := fun h => by
      obtain ⟨kind, refused⟩ := h.hashed
      cases given.symm.trans refused
    simp [given, hashable]
  · obtain ⟨kind, refused⟩ := h.hashed
    refine ⟨⟨fun _ => ⟨unhashable kind, refused, rfl⟩, fun _ => h⟩, ?_⟩
    simp [h, refused]

end Value
end CertChain
