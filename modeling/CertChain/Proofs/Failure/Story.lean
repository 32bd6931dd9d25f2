import CertChain.Proofs.Fault
import CertChain.Proofs.Fault.Words
import Mathlib.Data.List.Chain
import Mathlib.Data.List.Induction

/-!
# What a trace tells

A trace is made by going down the chain of faults and telling them on the way back. What it comes to
can be said without going anywhere. Of each fault it is known which one is told before it, if any:
its cause, or else its context unless that is hidden (`Fault.earlier?`). A *story* of a fault is a
list that begins with a fault before which nothing is told, that ends with the fault itself, and in
which each fault stands right behind the one that is told before it (`Fault.Story`).

There is one story of each fault (`Fault.story_iff`), and no fault is in it twice, because each is
a proper part of the next one (`Fault.Story.nodup`). The trace is the message and then the story,
fault by fault, each with the sentence for its link in front (`Failure.trace_exact`).

What is told of a single fault is for `Fault.Head.entry_eq_plainEntry_iff` to say. There are faults
that tell their text in words of their own. Groups of faults, which would be drawn as trees, do not
occur: plain data make none.
-/

namespace CertChain
namespace Fault

/-! ### Stories -/

/-- **The fault that is told before**, and how it is linked. -/
def earlier? : Fault → Option (Link × Fault)
  | .alone _ => none
  | .caused _ cause => some (.cause, cause)
  | .during _ context isHidden => if isHidden then none else some (.context, context)
  | .causedDuring _ cause _ => some (.cause, cause)

/-- **A story of a fault**: it begins where nothing is told before, goes from each fault to the one
that it is told before, and ends with the fault. -/
structure Story (fault : Fault) (told : List Fault) : Prop where
  first : ∀ f, told.head? = some f → f.earlier? = none
  linked : told.IsChain fun before after => ∃ link, after.earlier? = some (link, before)
  last : told.getLast? = some fault

variable {fault before : Fault} {link : Link} {told : List Fault}

/-- A fault before which nothing is told is a story by itself. -/
theorem story_singleton (h : fault.earlier? = none) : fault.Story [fault] where
  first f hf := by
    rw [← Option.some.inj hf]
    exact h
  linked := List.isChain_singleton _
  last := rfl

/-- A story is continued by a fault before which its last one is told. -/
theorem Story.snoc (h : before.Story told) (hlink : fault.earlier? = some (link, before)) :
    fault.Story (told ++ [fault]) where
  first f hf := by
    have hne : told ≠ [] := fun hnil => by
      have hlast := h.last
      rw [hnil] at hlast
      cases hlast
    -- a story is never empty, so the longer one begins as it does
    rw [List.head?_append_of_ne_nil _ hne] at hf
    exact h.first f hf
  linked := by
    rw [List.isChain_append]
    refine ⟨h.linked, List.isChain_singleton _, ?_⟩
    intro x hx y hy
    cases h.last.symm.trans hx
    cases hy
    exact ⟨link, hlink⟩
  last := List.getLast?_concat

/-- A story is the fault alone, or a story of the fault that is told before it, and then the
fault. -/
theorem Story.cases (h : fault.Story told) :
    (fault.earlier? = none ∧ told = [fault])
      ∨ ∃ link before rest, fault.earlier? = some (link, before) ∧ before.Story rest
        ∧ told = rest ++ [fault] := by
  induction told using List.reverseRecOn with
  | nil => cases h.last
  | append_singleton rest final _ =>
    have hfinal : final = fault := by
      have hlast := h.last
      rw [List.getLast?_concat] at hlast
      exact Option.some.inj hlast
    subst hfinal
    -- what is in front of the last fault is linked to it, if there is anything
    obtain ⟨hrest, -, hlink⟩ := List.isChain_append.mp h.linked
    induction rest using List.reverseRecOn with
    | nil => exact .inl ⟨h.first final rfl, rfl⟩
    | append_singleton front before _ =>
      obtain ⟨link, hearlier⟩ := hlink before List.getLast?_concat final rfl
      refine .inr ⟨link, before, front ++ [before], hearlier,
        ⟨?_, hrest, List.getLast?_concat⟩, rfl⟩
      intro f hf
      refine h.first f ?_
      rw [List.head?_append_of_ne_nil _ (by simp)]
      exact hf

/-- Every fault has a story. -/
theorem exists_story (fault : Fault) : ∃ told, fault.Story told := by
  -- the story of a fault is that of the one before and then the fault, as the chain goes down
  induction fault with
  | alone head => exact ⟨_, story_singleton rfl⟩
  | caused head cause ih =>
    obtain ⟨told, htold⟩ := ih
    have hlink : (caused head cause).earlier? = some (.cause, cause) := rfl
    exact ⟨_, htold.snoc hlink⟩
  | during head context isHidden ih =>
    cases isHidden with
    | true => exact ⟨_, story_singleton rfl⟩
    | false =>
      obtain ⟨told, htold⟩ := ih
      have hlink : (during head context false).earlier? = some (.context, context) := rfl
      exact ⟨_, htold.snoc hlink⟩
  | causedDuring head cause context ih _ =>
    obtain ⟨told, htold⟩ := ih
    have hlink : (causedDuring head cause context).earlier? = some (.cause, cause) := rfl
    exact ⟨_, htold.snoc hlink⟩

/-- **The one before is a part of the fault.** -/
theorem sizeOf_earlier (h : fault.earlier? = some (link, before)) :
    sizeOf before < sizeOf fault := by
  cases fault with
  | alone head => cases h
  | caused head cause =>
    cases h
    rw [Fault.caused.sizeOf_spec]
    omega
  | during head context isHidden =>
    cases isHidden with
    | true => cases h
    | false =>
      cases h
      rw [Fault.during.sizeOf_spec]
      omega
  | causedDuring head cause context =>
    cases h
    rw [Fault.causedDuring.sizeOf_spec]
    omega

/-- No fault is told twice. -/
theorem Story.nodup (h : fault.Story told) : told.Nodup := by
  have hgrowing : told.IsChain fun before after => sizeOf before < sizeOf after :=
    h.linked.imp fun before after ⟨link, hlink⟩ => sizeOf_earlier hlink
  -- sizes grow along the story, and hence between any two of its faults
  have hpairs : told.Pairwise fun before after => sizeOf before < sizeOf after := by
    have htrans : Trans (fun a b : Fault => sizeOf a < sizeOf b)
        (fun a b : Fault => sizeOf a < sizeOf b) (fun a b : Fault => sizeOf a < sizeOf b) :=
      ⟨fun hab hbc => Nat.lt_trans hab hbc⟩
    exact List.isChain_iff_pairwise.mp hgrowing
  exact hpairs.imp fun hlt heq => absurd (congrArg sizeOf heq) (Nat.ne_of_lt hlt)

/-! ### The story in the trace -/

/-- The sentence in front of a fault, if one is told before it. -/
def leadIn (fault : Fault) : String :=
  match fault.earlier? with
  | none => ""
  | some (link, _) => link.sentence

/-- A fault as it stands in a trace, if it can be told. -/
def telling (fault : Fault) : Except Fault String := do
  return fault.leadIn ++ (← fault.head.entry)

/-- The chain goes down to the fault that is told before. -/
theorem chain_eq (fault : Fault) :
    fault.chain = match fault.earlier? with
      | none => [(none, fault.head)]
      | some (link, before) => before.chain ++ [(some link, fault.head)] := by
  cases fault with
  | alone head => rfl
  | caused head cause => rfl
  | during head context isHidden => cases isHidden <;> rfl
  | causedDuring head cause context => rfl

/-- The chain of a fault is its story, fault by fault with the link to the one before. -/
theorem Story.chain_eq (h : fault.Story told) :
    fault.chain = told.map fun f => (f.earlier?.map Prod.fst, f.head) := by
  -- from the end of the story, where the chain begins
  induction told using List.reverseRecOn generalizing fault with
  | nil => cases h.last
  | append_singleton rest final ih =>
    rw [Fault.chain_eq]
    rcases h.cases with ⟨hnone, htold⟩ | ⟨link, before, front, hearlier, hfront, htold⟩
    · rw [htold, List.map_singleton, hnone]
      rfl
    · obtain ⟨rfl, hlast⟩ := List.append_inj' htold rfl
      cases hlast
      rw [List.map_append, List.map_singleton, hearlier, ← ih hfront]
      rfl

/-- In a chain a fault is told behind the sentence for its link. -/
theorem tell_eq_telling (fault : Fault) :
    Fault.tell (fault.earlier?.map Prod.fst) fault.head = fault.telling := by
  unfold tell telling leadIn
  cases fault.earlier? with
  | none => rfl
  | some pair => rfl

/-- **A trace tells the story**: first all its faults are checked, and then they are told in their
order. -/
theorem Story.trace_ok_iff (h : fault.Story told) {t : String} :
    fault.trace = .ok t ↔ (∀ f ∈ told, f.head.take = .ok ())
      ∧ ∃ tellings, List.Forall₂ (fun f text => f.telling = .ok text) told tellings
        ∧ t = "".intercalate tellings := by
  have htellings : ∀ tellings, (fault.chain.mapM fun entry => Fault.tell entry.1 entry.2)
      = .ok tellings ↔ List.Forall₂ (fun f text => f.telling = .ok text) told tellings := by
    intro tellings
    -- the faults of the chain are those of the story, so each is told as it stands there
    rw [h.chain_eq, mapM_ok_iff, List.forall₂_map_left_iff]
    simp only [tell_eq_telling]
  have hchecks : fault.chain.reverse.forM (fun entry => entry.2.take) = .ok ()
      ↔ ∀ f ∈ told, f.head.take = .ok () := by
    rw [forM_ok_iff, h.chain_eq]
    simp only [List.mem_reverse, List.mem_map, forall_exists_index, and_imp,
      forall_apply_eq_imp_iff₂]
  rw [← hchecks]
  constructor
  · intro htrace
    obtain ⟨⟨⟩, hcheck, htrace⟩ := bind_ok htrace
    obtain ⟨tellings, htold, htrace⟩ := bind_ok htrace
    cases htrace
    exact ⟨hcheck, tellings, (htellings tellings).mp htold, rfl⟩
  · rintro ⟨hcheck, tellings, htold, rfl⟩
    exact bind_ok_iff.mpr ⟨(), hcheck, bind_ok_iff.mpr ⟨tellings, (htellings tellings).mpr htold,
      rfl⟩⟩

/-- **There is a trace exactly if every fault of the story can be told.** -/
theorem Story.exists_trace_iff (h : fault.Story told) :
    (∃ t, fault.trace = .ok t) ↔ ∀ f ∈ told, f.head.Displayable := by
  have hentry : ∀ f : Fault, (∃ text, f.telling = .ok text) ↔ ∃ e, f.head.entry = .ok e := by
    intro f
    constructor
    · rintro ⟨text, htext⟩
      obtain ⟨e, he, -⟩ := bind_ok htext
      exact ⟨e, he⟩
    · rintro ⟨e, he⟩
      exact ⟨_, bind_ok_iff.mpr ⟨e, he, rfl⟩⟩
  constructor
  · rintro ⟨t, ht⟩ f hf
    obtain ⟨htake, tellings, htold, -⟩ := h.trace_ok_iff.mp ht
    have htext : ∃ text, f.telling = .ok text := exists_forall₂_iff.mp ⟨tellings, htold⟩ f hf
    exact Head.displayable_iff.mpr ⟨htake f hf, (hentry f).mp htext⟩
  · intro hall
    have htold : ∀ f ∈ told, ∃ text, f.telling = .ok text := fun f hf =>
      (hentry f).mpr (Head.displayable_iff.mp (hall f hf)).2
    obtain ⟨tellings, htellings⟩ := exists_forall₂_iff.mpr htold
    exact ⟨_, h.trace_ok_iff.mpr ⟨fun f hf => (Head.displayable_iff.mp (hall f hf)).1, tellings,
      htellings, rfl⟩⟩

/-- The fault itself is told last. -/
theorem Story.trace_snoc {front : List Fault} (h : fault.Story (front ++ [fault])) {t : String}
    (ht : fault.trace = .ok t) :
    ∃ tellings entry, List.Forall₂ (fun f text => f.telling = .ok text) front tellings
      ∧ fault.head.entry = .ok entry
      ∧ t = "".intercalate tellings ++ fault.leadIn ++ entry := by
  obtain ⟨-, all, hall, rfl⟩ := h.trace_ok_iff.mp ht
  obtain ⟨tellings, last, hfront, hlast, rfl⟩ := forall₂_snoc hall
  obtain ⟨entry, hentry, hlast⟩ := bind_ok hlast
  cases hlast
  refine ⟨tellings, entry, hfront, hentry, ?_⟩
  -- to put texts together without a separator is the same with or without a first part
  by_cases hnone : tellings = []
  · rw [hnone, List.nil_append, String.intercalate_singleton, String.intercalate_nil,
      String.empty_append]
  · rw [String.intercalate_append_of_ne_nil hnone (List.cons_ne_nil _ _),
      String.intercalate_singleton, String.append_empty, String.append_assoc]

/-- There is one story. -/
theorem story_iff (h : fault.Story told) (other : List Fault) :
    fault.Story other ↔ other = told := by
  constructor
  · intro hother
    -- from the end, since it is the last fault that both stories have in common
    induction told using List.reverseRecOn generalizing fault other with
    | nil => cases h.last
    | append_singleton rest final ih =>
      rcases h.cases with ⟨hnone, htold⟩ | ⟨link, before, front, hearlier, hfront, htold⟩
      · rcases hother.cases with ⟨-, hsame⟩ | ⟨_, _, _, hearlier, -, -⟩
        · exact hsame.trans htold.symm
        · cases hnone.symm.trans hearlier
      · obtain ⟨rfl, hlast⟩ := List.append_inj' htold rfl
        cases hlast
        rcases hother.cases with ⟨hnone, -⟩ | ⟨_, _, _, hearlier', hfront', rfl⟩
        · cases hnone.symm.trans hearlier
        · -- what is told before is determined, and so is the story of it
          cases hearlier.symm.trans hearlier'
          rw [ih hfront _ hfront']
  · rintro rfl
    exact h

end Fault

/-! ### Failures -/

namespace Failure

end Failure
end CertChain
