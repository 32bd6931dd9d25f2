import CertChain.Settings
import Mathlib.Data.List.Induction

/-!
# What a settings file gives

A settings file may bind a name more than once, and it may spell the name of a setting in more
than one way. What it gives is said here without the table that is built on the way: of the
spellings that are bound, the one that is the last to appear for the first time counts, with the
value of its last binding (`DotEnv.Gives`).

The table of values that refer to nothing has a closed form, a row for each name in the order of
first appearance (`DotEnv.resolve_eq`). What is looked up in it is what the file gives
(`DotEnv.ofTable_resolve_iff`).

Bindings of other names are of no account: all that a file gives is kept when they are taken out
(`DotEnv.Gives.filter_iff`).
-/

namespace CertChain

/-! ### The last one of its kind -/

section IsLast

variable {α : Type} {p : α → Prop} {x : α} {xs : List α}

/-- **The last** of some things that has a property. -/
def IsLast (p : α → Prop) (xs : List α) (x : α) : Prop :=
  ∃ before after, xs = before ++ x :: after ∧ p x ∧ ∀ y ∈ after, ¬ p y

/-- The last one is the first that is found from the other end. -/
theorem isLast_iff [DecidablePred p] :
    IsLast p xs x ↔ (xs.reverse.find? fun y => p y) = some x := by
  rw [List.find?_eq_some_iff_append]
  constructor
  · rintro ⟨before, after, rfl, hx, hafter⟩
    refine ⟨decide_eq_true hx, after.reverse, before.reverse, by simp, ?_⟩
    intro y hy
    simpa using hafter y (List.mem_reverse.mp hy)
  · rintro ⟨hx, before, after, hxs, hbefore⟩
    refine ⟨after.reverse, before.reverse, ?_, of_decide_eq_true hx, ?_⟩
    · rw [← List.reverse_reverse xs, hxs]
      simp
    · intro y hy
      simpa using hbefore y (List.mem_reverse.mp hy)

/-- What does not have the property may be taken out. -/
theorem IsLast.filter_iff [DecidablePred p] {keep : α → Bool} (hkeep : ∀ x, p x → keep x = true) :
    IsLast p (xs.filter keep) x ↔ IsLast p xs x := by
  rw [isLast_iff, isLast_iff, ← List.filter_reverse, List.find?_filter]
  have hsame : (fun y => decide (keep y = true ∧ decide (p y) = true)) = fun y => decide (p y) := by
    funext y
    simp only [decide_eq_true_eq, decide_eq_decide]
    exact and_iff_right_of_imp (hkeep y)
  rw [hsame]

end IsLast

/-- A name is **a spelling** of a setting's name. -/
def Setting.SpelledAs (s : Setting) (name : String) : Prop :=
  smalls name = s.environmentName

instance (s : Setting) : DecidablePred s.SpelledAs :=
  fun name => inferInstanceAs (Decidable (smalls name = s.environmentName))

namespace DotEnv

/-! ### Line by line -/

/-- A text without a mark in front is scanned as it is, but for its line ends. -/
theorem bindings_of_lines {text : String} {cs : List Char} (hlines : withLineFeeds text.toList = cs)
    (hmark : cs.head? ≠ some '\uFEFF') : bindings text = bindingsFrom cs := by
  rw [bindings, hlines]
  exact congrArg bindingsFrom (if_neg hmark)

/-- There is nothing in an empty text. -/
theorem bindingsFrom_nil : bindingsFrom [] = [] := by
  rw [bindingsFrom]
  rfl

/-- A line with a binding, and what stands behind it. -/
theorem bindingsFrom_cons {cs rest : List Char} {b : Binding}
    (hline : scanLine.run (cs.dropWhile isBlank) = .ok (some b, rest))
    (hrest : rest.length < cs.length) : bindingsFrom cs = b :: bindingsFrom rest := by
  have hfull : (cs.dropWhile isBlank).isEmpty = false := by
    cases hcs : cs.dropWhile isBlank with
    | nil =>
      rw [hcs] at hline
      cases hline
    | cons c behind => rfl
  rw [bindingsFrom]
  simp only [hfull, hline, Bool.false_eq_true, if_false, dif_pos hrest, Option.toList_some,
    List.singleton_append]

/-! ### Values that refer to nothing -/

/-- There is **no reference** in a text. -/
def NoReference (text : String) : Prop :=
  ∀ before behind, text.toList = before ++ '$' :: '{' :: behind → reference? behind = none

/-- **Plain bindings**: their values refer to nothing. -/
def Plain (bs : List Binding) : Prop :=
  ∀ b ∈ bs, ∀ text, b.value = some text → NoReference text

/-- A text without a reference stands for itself. -/
theorem expand_of_noReference (valueOf : String → Option String) {cs : List Char}
    (h : ∀ before behind, cs = before ++ '$' :: '{' :: behind → reference? behind = none) :
    expand valueOf cs = cs := by
  -- one character at a time; a reference would have to open at the character in front
  induction cs with
  | nil => rw [expand]
  | cons c rest ih =>
    have hnone : (if c = '$' ∧ rest.head? = some '{' then reference? rest.tail else none)
        = none := by
      split
      · rename_i hopens
        obtain ⟨rfl, hhead⟩ := hopens
        obtain ⟨behind, rfl⟩ := List.head?_eq_some_iff.mp hhead
        exact h [] behind rfl
      · rfl
    have hrest : expand valueOf rest = rest := by
      refine ih fun before behind hsplit => ?_
      exact h (c :: before) behind (by rw [hsplit, List.cons_append])
    rw [expand]
    split
    · rename_i hsome
      rw [hnone] at hsome
      cases hsome
    · rw [hrest]

/-! ### The table in closed form -/

variable {bs : List Binding} {name : String}

/-- The names that are bound, in the order in which they first appear. -/
def boundNames (bs : List Binding) : List String :=
  (bs.map Binding.name).eraseDups

/-- The value of the last binding of a name, if it has one. -/
def boundValue (bs : List Binding) (name : String) : Option String :=
  (bs.reverse.find? fun b => b.name = name).bind Binding.value

/-- One more binding adds its name, unless the name is there already. -/
theorem boundNames_concat (bs : List Binding) (b : Binding) :
    boundNames (bs ++ [b])
      = if b.name ∈ boundNames bs then boundNames bs else boundNames bs ++ [b.name] := by
  have hconcat : ∀ (names : List String) (name : String), (names ++ [name]).eraseDups
      = if name ∈ names.eraseDups then names.eraseDups else names.eraseDups ++ [name] := by
    intro names name
    by_cases h : name ∈ names <;> simp [List.eraseDups_append, List.eraseDups_cons,
      List.removeAll, h]
  rw [boundNames, List.map_append]
  exact hconcat (bs.map Binding.name) b.name

/-- One more binding replaces the value of its name. -/
theorem boundValue_concat (bs : List Binding) (b : Binding) (name : String) :
    boundValue (bs ++ [b]) name = if name = b.name then b.value else boundValue bs name := by
  unfold boundValue
  rw [List.reverse_append, List.reverse_singleton, List.singleton_append, List.find?_cons]
  by_cases h : name = b.name
  · simp [h]
  · simp [h, Ne.symm h]

/-- A new value for a name, in a table that has a row for each of some names. -/
theorem put_map (names : List String) (valueOf : String → Option String) (name : String)
    (value : Option String) :
    Table.put (names.map fun n => (n, valueOf n)) name value
      = (if name ∈ names then names else names ++ [name]).map fun n =>
          (n, if n = name then value else valueOf n) := by
  -- a row is replaced where it stands if the name has one, and put behind all others if not
  have hany : ((names.map fun n => (n, valueOf n)).any fun row => row.1 == name) = true
      ↔ name ∈ names := by
    simp
  unfold Table.put
  by_cases h : name ∈ names
  · rw [if_pos (hany.mpr h), if_pos h, List.map_map]
    refine List.map_congr_left fun n hn => ?_
    by_cases hname : n = name <;> simp [hname]
  · rw [if_neg fun hrow => h (hany.mp hrow), if_neg h, List.map_append]
    congr 1
    · refine List.map_congr_left fun n hn => ?_
      rw [if_neg (ne_of_mem_of_not_mem hn h)]
    · simp

/-- **The table of plain bindings.** -/
theorem resolve_eq (environment : List (String × String)) (h : Plain bs) :
    resolve environment bs = (boundNames bs).map fun name => (name, boundValue bs name) := by
  -- on the last binding, since it is put into the table that the others have made
  induction bs using List.reverseRecOn with
  | nil => rfl
  | append_singleton bs b ih =>
    have hinit : Plain bs := fun b' hb' => h b' (List.mem_append_left [b] hb')
    -- the bindings so far do not matter for a value that refers to none
    have hvalue : ∀ valueOf, (b.value.map fun text =>
        String.ofList (expand valueOf text.toList)) = b.value := by
      intro valueOf
      cases hb : b.value with
      | none => rfl
      | some text =>
        have hplain := h b (List.mem_append_right bs List.mem_cons_self) text hb
        simp [expand_of_noReference valueOf hplain]
    rw [resolve, List.foldl_append, ← resolve, ih hinit, boundNames_concat]
    simp only [List.foldl_cons, List.foldl_nil, hvalue, boundValue_concat]
    exact put_map (boundNames bs) (boundValue bs) b.name b.value

/-! ### The value that is given -/

/-- **What a settings file gives** for a setting. -/
def Gives (bs : List Binding) (s : Setting) (text : String) : Prop :=
  ∃ name, IsLast s.SpelledAs (boundNames bs) name
    ∧ IsLast (fun b => b.name = name) bs ⟨name, some text⟩

variable {s : Setting} {text : String}

/-- The value of a name is the one of its last binding. -/
theorem boundValue_eq_some_iff :
    boundValue bs name = some text ↔ IsLast (fun b => b.name = name) bs ⟨name, some text⟩ := by
  rw [isLast_iff, boundValue, Option.bind_eq_some_iff]
  constructor
  · rintro ⟨⟨_, _⟩, hfind, rfl⟩
    have hname := List.find?_some hfind
    simp only [decide_eq_true_eq] at hname
    rw [hfind, hname]
  · intro hfind
    exact ⟨_, hfind, rfl⟩

/-- **The table of plain bindings gives** what the file gives. -/
theorem ofTable_resolve_iff (environment : List (String × String)) (h : Plain bs)
    {value : Datum} :
    Source.ofTable (resolve environment bs) s = some value
      ↔ ∃ text, value = .text text ∧ Gives bs s text := by
  -- the search from the end of the table is one among the names, which then gives the value
  have hfind : ((resolve environment bs).reverse.find? fun row =>
        smalls row.1 = s.environmentName)
      = ((boundNames bs).reverse.find? fun name => s.SpelledAs name).map
          fun name => (name, boundValue bs name) := by
    rw [resolve_eq environment h, ← List.map_reverse, List.find?_map]
    rfl
  have hlast : ∀ name, IsLast s.SpelledAs (boundNames bs) name
      ↔ ((boundNames bs).reverse.find? fun name => s.SpelledAs name) = some name :=
    fun name => isLast_iff
  unfold Source.ofTable Gives
  simp only [hlast, hfind, ← boundValue_eq_some_iff]
  cases (boundNames bs).reverse.find? fun name => s.SpelledAs name with
  | none => simp
  | some name =>
    cases hvalue : boundValue bs name with
    | none => simp [hvalue]
    | some text => simp [hvalue, eq_comm]

/-! ### Bindings of other names -/

/-- Taking out bindings by their names keeps the order of the others. -/
theorem boundNames_filter (keep : String → Bool) (bs : List Binding) :
    boundNames (bs.filter fun b => keep b.name) = (boundNames bs).filter keep := by
  -- on the last binding as well: it may be taken out, it may be a new name or an old one
  induction bs using List.reverseRecOn with
  | nil => rfl
  | append_singleton bs b ih =>
    have hfilter : ((bs ++ [b]).filter fun b => keep b.name)
        = (bs.filter fun b => keep b.name) ++ if keep b.name = true then [b] else [] := by
      rw [List.filter_append]
      split <;> simp [*]
    rw [hfilter, boundNames_concat]
    by_cases hkeep : keep b.name = true
    · rw [if_pos hkeep, boundNames_concat, ih]
      by_cases hmem : b.name ∈ boundNames bs <;> simp [hmem, hkeep]
    · rw [if_neg hkeep, List.append_nil, ih]
      by_cases hmem : b.name ∈ boundNames bs <;> simp [hmem, hkeep]

/-- What a file gives for a setting is up to the bindings of its spellings. -/
theorem Gives.filter_iff {keep : String → Bool}
    (hkeep : ∀ name, s.SpelledAs name → keep name = true) :
    Gives (bs.filter fun b => keep b.name) s text ↔ Gives bs s text := by
  unfold Gives
  rw [boundNames_filter]
  refine exists_congr fun name => ?_
  -- the last spelling is the same, and so is the last binding of it
  rw [IsLast.filter_iff hkeep]
  refine and_congr_right fun hlast => ?_
  obtain ⟨-, -, -, hname, -⟩ := hlast
  refine IsLast.filter_iff ?_
  rintro b rfl
  exact hkeep b.name hname

end DotEnv
end CertChain
