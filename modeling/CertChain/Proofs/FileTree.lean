import CertChain.FileTree
import CertChain.Proofs.Outcome

/-!
# A file is read as it was written

Writing a file changes what one place holds and nothing else (`FileTree.Written`). This takes an
argument, because a directory need not be listed: it is there when something in it is, and so a
new file could bring new directories with it. It does not. Whoever follows a path only gets on
where there are directories, so those in which the file stands have been there before
(`FileTree.Founded`).

For the same reason a path leads to the same place before and after, and what is read there is
what was written.
-/

namespace CertChain

/-! ### Above and below -/

namespace Place

variable {p q : Place}

/-- A place is above another one if its names are a proper beginning of the other names. -/
theorem isAbove_iff : q.isAbove p = true
    ↔ q.base = p.base ∧ q.names <+: p.names ∧ q.names.length < p.names.length := by
  rw [isAbove, Bool.and_eq_true, Bool.and_eq_true, beq_iff_eq, List.isPrefixOf_iff_prefix,
    decide_eq_true_iff, and_assoc]

/-- What is above a place one step further down is the place or above it. -/
theorem isAbove_child {name : String} (h : q.isAbove (p.child name) = true) :
    q = p ∨ q.isAbove p = true := by
  -- the names of the upper place end before the last step, or with it
  obtain ⟨hbase, hbegins, hlength⟩ := isAbove_iff.mp h
  rw [child] at hbase hbegins hlength
  rcases List.prefix_concat_iff.mp hbegins with hsame | hbegins
  · rw [hsame] at hlength
    exact absurd hlength (Nat.lt_irrefl _)
  · by_cases hnames : q.names = p.names
    · left
      obtain ⟨base, names⟩ := q
      obtain ⟨base', names'⟩ := p
      cases hbase
      cases hnames
      rfl
    · right
      refine isAbove_iff.mpr ⟨hbase, hbegins, ?_⟩
      exact Nat.lt_of_le_of_ne hbegins.length_le fun heq => hnames (hbegins.eq_of_length heq)

/-- What is above a place one step further up was above it before. -/
theorem isAbove_parent (h : q.isAbove p.parent = true) : q.isAbove p = true := by
  obtain ⟨base, names⟩ := p
  cases names with
  | nil =>
    -- nothing is above a place without names
    cases base with
    | above steps => exact absurd (isAbove_iff.mp h).2.2 (Nat.not_lt_zero _)
    | root => exact h
  | cons name rest =>
    obtain ⟨hbase, hbegins, hlength⟩ := isAbove_iff.mp h
    have hdrop : (name :: rest).dropLast <+: name :: rest := List.dropLast_prefix _
    exact isAbove_iff.mpr ⟨hbase, hbegins.trans hdrop, Nat.lt_of_lt_of_le hlength hdrop.length_le⟩

end Place

namespace FileTree

variable {tree other : FileTree} {p q : Place} {path : Path} {content : Bytes} {node : Node}

/-! ### Following a path -/

/-- **A place is founded** if the tree knows every place above it. -/
def Founded (tree : FileTree) (p : Place) : Prop :=
  ∀ q : Place, q.isAbove p = true → tree.node? q ≠ none

/-- A step of a path starts at a directory and leads one place up or down. -/
theorem follow_ok {name : String} (h : tree.follow p name = .ok q) :
    tree.node? p = some .directory ∧ (q = p.parent ∨ q = p.child name) := by
  rw [follow] at h
  cases hnode : tree.node? p with
  | none =>
    rw [hnode] at h
    cases h
  | some node =>
    rw [hnode] at h
    cases node with
    | file content => cases h
    | directory =>
      simp only at h
      split_ifs at h
      · cases h
        exact ⟨rfl, .inl rfl⟩
      · cases h
        exact ⟨rfl, .inr rfl⟩

/-- A step leads from a founded place to a founded place. -/
theorem Founded.follow {name : String} (hp : tree.Founded p) (h : tree.follow p name = .ok q) :
    tree.Founded q := by
  obtain ⟨hnode, rfl | rfl⟩ := follow_ok h
  · exact fun r hr => hp r (Place.isAbove_parent hr)
  -- above the next place is the directory that the step started from, and what is above that
  · intro r hr
    rcases Place.isAbove_child hr with rfl | hr
    · rw [hnode]
      exact Option.some_ne_none _
    · exact hp r hr

/-- Directories that are still there are followed as before. -/
theorem follow_congr (hkept : ∀ r, tree.node? r = some .directory → other.node? r = some .directory)
    {name : String} (h : tree.follow p name = .ok q) : other.follow p name = .ok q := by
  have hnode := (follow_ok h).1
  rw [FileTree.follow, hnode] at h
  rw [FileTree.follow, hkept p hnode]
  exact h

/-- So do all steps of a path, and they lead to the same place in a tree that has kept its
directories. -/
theorem foldlM_follow {names : List String} (h : names.foldlM tree.follow p = .ok q) :
    (tree.Founded p → tree.Founded q)
      ∧ ∀ other : FileTree,
        (∀ r, tree.node? r = some .directory → other.node? r = some .directory) →
        names.foldlM other.follow p = .ok q := by
  -- on the names of the path, one step for each
  induction names generalizing p with
  | nil =>
    cases h
    exact ⟨id, fun _ _ => rfl⟩
  | cons name rest ih =>
    rw [List.foldlM_cons] at h
    obtain ⟨next, hnext, hrest⟩ := bind_ok h
    obtain ⟨hfounded, hsame⟩ := ih hrest
    refine ⟨fun hp => hfounded (hp.follow hnext), fun other hkept => ?_⟩
    rw [List.foldlM_cons, follow_congr hkept hnext]
    exact hsame other hkept

/-- **The place at the end of a path** is founded, and it stays at the end of the path as long
as the directories stay. -/
theorem locate_ok (h : tree.locate path = .ok p) :
    tree.Founded p
      ∧ ∀ other : FileTree,
        (∀ r, tree.node? r = some .directory → other.node? r = some .directory) →
        other.locate path = .ok p := by
  -- a path starts where there are no names, and nothing is above that
  have hstart : tree.Founded (Place.start path.origin) := by
    intro q hq
    have hnames : (Place.start path.origin).names = [] := by
      cases path.origin <;> rfl
    have hlength := (Place.isAbove_iff.mp hq).2.2
    rw [hnames] at hlength
    exact absurd hlength (Nat.not_lt_zero _)
  rw [locate] at h
  split_ifs at h with hzero hlong
  obtain ⟨hfounded, hsame⟩ := foldlM_follow h
  refine ⟨hfounded hstart, fun other hkept => ?_⟩
  rw [locate, if_neg hzero, if_neg hlong]
  exact hsame other hkept

/-! ### What places hold -/

/-- A place with names holds what is listed for it, or is a directory if something below it is. -/
theorem node?_of_names (hp : p.names ≠ []) :
    tree.node? p = match tree.nodes.lookup p with
      | some node => some node
      | none =>
        if tree.nodes.any fun entry => p.isAbove entry.1 then some .directory else none := by
  have hempty : ¬ p.names.isEmpty = true := by rwa [List.isEmpty_iff]
  exact if_neg hempty

/-- A place that is no directory has names. -/
theorem names_ne_nil (h : tree.node? p ≠ some .directory) : p.names ≠ [] := by
  intro hnames
  apply h
  rw [node?, hnames]
  rfl

/-- What is listed after something was put. -/
theorem lookup_put : (tree.put p node).nodes.lookup q
    = if q = p then some node else tree.nodes.lookup q := by
  have hmap : ∀ nodes : List (Place × Node),
      (nodes.map fun entry => if entry.1 = p then (p, node) else entry).lookup q
        = if q = p then (nodes.lookup p).map fun _ => node else nodes.lookup q := by
    intro nodes
    -- on the list, where the entry of the place is replaced as often as it occurs
    induction nodes with
    | nil => rw [List.map_nil, List.lookup_nil, List.lookup_nil, Option.map_none, ite_self]
    | cons entry rest ih =>
      obtain ⟨place, held⟩ := entry
      rw [List.map_cons]
      by_cases hplace : place = p
      · subst hplace
        rw [if_pos rfl, List.lookup_cons, ih, List.lookup_cons, List.lookup_cons]
        by_cases hq : q = place
        · simp [hq]
        · simp [hq, beq_false_of_ne hq]
      · rw [if_neg hplace, List.lookup_cons, ih, List.lookup_cons, List.lookup_cons,
          beq_false_of_ne (Ne.symm hplace)]
        by_cases hq : q = p
        · rw [hq, beq_false_of_ne (Ne.symm hplace), if_pos rfl]
        · rw [if_neg hq, if_neg hq]
  rw [put]
  by_cases hlisted : (tree.nodes.lookup p).isSome = true
  · obtain ⟨held, hheld⟩ := Option.isSome_iff_exists.mp hlisted
    rw [if_pos hlisted, hmap, hheld]
    rfl
  · rw [if_neg hlisted, List.lookup_append]
    rw [Option.not_isSome_iff_eq_none] at hlisted
    by_cases hq : q = p
    · rw [if_pos hq, hq, hlisted, List.lookup_cons, beq_self_eq_true]
      rfl
    · rw [if_neg hq, List.lookup_cons, beq_false_of_ne hq, List.lookup_nil, Option.or_none]

/-- What is above something that is listed, after something was put. -/
theorem any_put : ((tree.put p node).nodes.any fun entry => q.isAbove entry.1)
    = ((tree.nodes.any fun entry => q.isAbove entry.1) || q.isAbove p) := by
  rw [put]
  by_cases hlisted : (tree.nodes.lookup p).isSome = true
  · -- the place was listed before, so what is above it was above something listed
    have hp : q.isAbove p = true → (tree.nodes.any fun entry => q.isAbove entry.1) = true := by
      intro hq
      obtain ⟨entry, hmem, hentry⟩ := List.lookup_isSome_iff.mp hlisted
      rw [beq_iff_eq] at hentry
      rw [hentry] at hq
      exact List.any_eq_true.mpr ⟨entry, hmem, hq⟩
    have hkeys : ∀ entry : Place × Node,
        (if entry.1 = p then (p, node) else entry).1 = entry.1 := by
      intro entry
      by_cases hentry : entry.1 = p
      · rw [if_pos hentry, hentry]
      · rw [if_neg hentry]
    rw [if_pos hlisted, List.any_map]
    simp only [Function.comp_def, hkeys]
    cases habove : q.isAbove p with
    | false => rw [Bool.or_false]
    | true => rw [hp habove, Bool.true_or]
  · rw [if_neg hlisted, List.any_append, List.any_cons, List.any_nil, Bool.or_false]

/-- **Something that is put at a founded place** is there, and all other places hold what they
held. -/
theorem node?_put (hp : p.names ≠ []) (hfounded : tree.Founded p) :
    (tree.put p node).node? p = some node
      ∧ ∀ q, q ≠ p → (tree.put p node).node? q = tree.node? q := by
  constructor
  · rw [node?_of_names hp, lookup_put, if_pos rfl]
  · intro q hne
    by_cases hq : q.names = []
    · rw [node?, node?, hq]
      rfl
    · rw [node?_of_names hq, node?_of_names hq, lookup_put, if_neg hne, any_put]
      cases hlisted : tree.nodes.lookup q with
      | some held => rfl
      | none =>
        cases habove : q.isAbove p with
        | false => rw [Bool.or_false]
        | true =>
          -- it is not listed but known, so it is a directory already
          have hknown := hfounded q habove
          rw [node?_of_names hq, hlisted] at hknown
          simp only at hknown ⊢
          split_ifs at hknown with hany
          · rw [hany]
            rfl
          · exact absurd rfl hknown

/-! ### Writing -/

/-- **A file that has been written**: it is read, and apart from its place everything is as it
was. -/
structure Written (tree : FileTree) (path : Path) (content : Bytes) (after : FileTree) : Prop where
  read : after.read path = .ok content
  elsewhere : ∀ q, tree.locate path ≠ .ok q → after.node? q = tree.node? q

/-- **A file is read as it was written.** -/
theorem written_of_write (h : tree.write path content = .ok other) :
    Written tree path content other := by
  obtain ⟨p, hlocate, h⟩ := bind_ok h
  -- a directory is not overwritten; what is written takes the place of a file or of nothing
  have hdirectory : tree.node? p ≠ some .directory ∧ other = tree.put p (.file content) := by
    cases hnode : tree.node? p with
    | none =>
      rw [hnode] at h
      cases h
      refine ⟨?_, rfl⟩
      intro hnone
      cases hnone
    | some node =>
      rw [hnode] at h
      cases node with
      | directory => cases h
      | file held =>
        cases h
        refine ⟨?_, rfl⟩
        intro hfile
        cases hfile
  obtain ⟨hnode, rfl⟩ := hdirectory
  obtain ⟨hfounded, hsame⟩ := locate_ok hlocate
  have hafter : (tree.put p (.file content)).node? p = some (.file content)
      ∧ ∀ q, q ≠ p → (tree.put p (.file content)).node? q = tree.node? q :=
    node?_put (names_ne_nil hnode) hfounded
  obtain ⟨hput, helse⟩ := hafter
  constructor
  · -- no directory is lost, for there was none at the place
    have hkept : ∀ r, tree.node? r = some .directory →
        (tree.put p (.file content)).node? r = some .directory := by
      intro r hr
      rw [helse r (fun hrp => hnode (hrp ▸ hr))]
      exact hr
    rw [FileTree.read, hsame _ hkept]
    simp only [bind, Except.bind, hput]
    rfl
  · intro q hq
    apply helse
    rintro rfl
    exact hq hlocate

end FileTree
end CertChain
