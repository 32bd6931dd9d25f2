import CertChain.Proofs.Pem

/-!
# Labels that a marker line can bear

A marker line is a label and five dashes, and a label may have dashes of its own. The reader
takes the first five dashes in a row for the end of the line, so a label is read back exactly
if it has no five dashes in a row and does not end in one (`Pem.isLabel_iff`).

In general the reader misses a marker right behind a part of itself, because an octet that
does not fit makes it start afresh with the next one. Among dashes that does no harm: an
octet that does not fit is no dash, and no marker could begin with it. So the dashes that are
still due are always five less those that were read last, which is what `Pem.seek_dashes`
carries along.
-/

namespace CertChain
namespace Pem

/-- **A block with a label that a marker line can bear**: there is something in the label, it
has no five dashes in a row, and it does not end in a dash. -/
def Block.WellFormed (block : Block) : Prop :=
  block.label ≠ "" ∧ ¬ dashes <:+: Bytes.ofText block.label
    ∧ (Bytes.ofText block.label).getLast? ≠ some 0x2D

/-- Whether a label can be borne is a matter of its octets. -/
instance (block : Block) : Decidable block.WellFormed :=
  inferInstanceAs (Decidable (_ ∧ _ ∧ _))

/-! ### Looking for dashes -/

section Dashes

variable {n k : Nat} {octets : Bytes}

/-- One dash more, counted with those before it. -/
theorem replicate_append_cons (n : Nat) (octets : Bytes) :
    List.replicate n 0x2D ++ 0x2D :: octets = List.replicate (n + 1) 0x2D ++ octets := by
  rw [List.replicate_succ', List.append_assoc, List.singleton_append]

/-- **Octets without five dashes in a row** are passed over, unless they end in a dash. Of the
five, `n` were read last and count as well, and `k + 1` are still due. -/
theorem seek_dashes (hfive : n + k = 4)
    (hrow : ¬ dashes <:+: List.replicate n 0x2D ++ octets)
    (hlast : (List.replicate n 0x2D ++ octets).getLast? ≠ some 0x2D) (seen rest : Bytes) :
    seek dashes (List.replicate (k + 1) 0x2D) seen (octets ++ rest)
      = seek dashes dashes (octets.reverse ++ seen) rest := by
  induction octets generalizing n k seen with
  | nil =>
    -- no dash was read last, so all five are due
    cases n with
    | zero =>
      rw [Nat.zero_add] at hfive
      rw [hfive]
      rfl
    | succ n =>
      rw [List.append_nil, List.getLast?_replicate] at hlast
      exact absurd rfl hlast
  | cons b octets ih =>
    rw [List.cons_append, List.replicate_succ, seek, stillDue]
    by_cases hb : b = 0x2D
    · -- one dash more was read, and it was not the fifth
      subst hb
      rw [replicate_append_cons] at hrow hlast
      cases k with
      | zero =>
        rw [Nat.add_zero] at hfive
        subst hfive
        exact absurd (List.prefix_append dashes octets).isInfix hrow
      | succ k =>
        rw [if_pos rfl, if_neg (by simp), ih (by omega) hrow hlast, List.reverse_cons,
          List.append_assoc]
        rfl
    · -- the row is over, and what follows is a text of its own
      have hsuffix : octets <:+ List.replicate n 0x2D ++ b :: octets :=
        (List.suffix_cons b octets).trans (List.suffix_append _ _)
      have hrow' : ¬ dashes <:+: List.replicate 0 0x2D ++ octets := fun h =>
        hrow (h.trans hsuffix.isInfix)
      have hlast' : (List.replicate 0 0x2D ++ octets).getLast? ≠ some 0x2D := by
        intro h
        cases octets with
        | nil => cases h
        | cons c octets =>
          rw [List.getLast?_append, List.getLast?_cons_cons] at hlast
          exact hlast (by rw [show (c :: octets).getLast? = some 0x2D from h]; rfl)
      rw [if_neg hb, if_neg (by decide)]
      have hmore := ih (n := 0) (k := 4) rfl hrow' hlast' (b :: seen)
      rw [List.reverse_cons, List.append_assoc]
      exact hmore

/-- Five dashes end the search, if nothing before has ended it. -/
theorem seek_dashes_ne_none (hfive : n + k = 4) (seen : Bytes) :
    seek dashes (List.replicate (k + 1) 0x2D) seen (octets ++ dashes) ≠ none := by
  induction octets generalizing n k seen with
  | nil =>
    -- of five dashes those are taken that are still due, and there are enough of them
    have hsplit : dashes = List.replicate (k + 1) 0x2D ++ List.replicate n 0x2D := by
      rw [List.replicate_append_replicate, show k + 1 + n = 5 by omega]
      decide
    rw [List.nil_append]
    intro h
    have hfound := @seek_due dashes (List.replicate (k + 1) 0x2D) (by simp) seen
      (List.replicate n 0x2D)
    rw [← hsplit, h] at hfound
    cases hfound
  | cons b octets ih =>
    rw [List.cons_append, List.replicate_succ, seek, stillDue]
    by_cases hb : b = 0x2D
    · rw [if_pos hb]
      cases k with
      | zero => simp
      | succ k =>
        rw [if_neg (by simp)]
        exact ih (n := n + 1) (by omega) (b :: seen)
    · rw [if_neg hb, if_neg (by decide)]
      exact ih (n := 0) (k := 4) rfl (b :: seen)

end Dashes

/-! ### Labels -/

/-- The first five dashes are found at the latest where there are some. -/
theorem exists_splitOn?_dashes (octets : Bytes) :
    ∃ before after, splitOn? dashes (octets ++ dashes) = some (before, after) := by
  have hsome := @seek_dashes_ne_none 0 4 octets rfl []
  obtain ⟨⟨before, after⟩, hfound⟩ := Option.ne_none_iff_exists'.mp hsome
  exact ⟨before, after, hfound⟩

/-- Five dashes with something behind them are not the last thing that is found. -/
theorem splitOn?_dashes_ne (octets more before : Bytes) (hmore : more ≠ []) :
    splitOn? dashes (octets ++ dashes ++ more) ≠ some (before, []) := by
  intro h
  obtain ⟨_, after, hfound⟩ := exists_splitOn?_dashes octets
  rw [splitOn?_append hfound] at h
  cases after with
  | nil =>
    simp only [Option.some.injEq, Prod.mk.injEq, List.nil_append] at h
    exact hmore h.2
  | cons a after =>
    simp at h

/-- **A label is read back** exactly if the dashes in it are not taken for those behind it. -/
theorem isLabel_iff (block : Block) : IsLabel block.label ↔ block.WellFormed := by
  constructor
  · rintro ⟨hne, hfound⟩
    refine ⟨hne, ?_, ?_⟩
    · -- five dashes inside would be found first
      rintro ⟨before, after, heq⟩
      rw [← heq, List.append_assoc] at hfound
      have hmore : after ++ dashes ≠ [] := List.append_ne_nil_of_right_ne_nil after (by decide)
      exact splitOn?_dashes_ne before (after ++ dashes) _ hmore hfound
    · -- and so would be four of those behind, with a dash before them
      intro hlast
      obtain ⟨front, heq⟩ := List.getLast?_eq_some_iff.mp hlast
      have hshift : Bytes.ofText block.label ++ dashes = front ++ dashes ++ [0x2D] := by
        rw [heq, List.append_assoc, List.append_assoc]
        congr 1
      rw [hshift] at hfound
      exact splitOn?_dashes_ne front [0x2D] _ (by simp) hfound
  · rintro ⟨hne, hrow, hlast⟩
    refine ⟨hne, ?_⟩
    -- the label is passed over, and the dashes behind it are found at once
    have hpass := @seek_dashes 0 4 (Bytes.ofText block.label) rfl hrow hlast [] dashes
    have hfound := @seek_due dashes dashes (by decide) ((Bytes.ofText block.label).reverse ++ []) []
    rw [List.append_nil, List.append_nil, List.drop_left' (List.length_reverse),
      List.reverse_reverse] at hfound
    rw [List.append_nil] at hpass
    exact hpass.trans hfound

/-- A label can have dashes, though not at its end. -/
example : (⟨"X509-CERTIFICATE", []⟩ : Block).WellFormed ∧ ¬ (⟨"X509-", []⟩ : Block).WellFormed := by
  decide +kernel

/-! ### Texts of blocks -/

/-- **A text of blocks** offers the first of them that bears one of the labels. -/
theorem firstLabelled_writeAll {labels : List String} {before after : List Block} {block : Block}
    (h : ∀ b ∈ before ++ block :: after, b.WellFormed)
    (hbefore : ∀ b ∈ before, b.label ∉ labels) (hmem : block.label ∈ labels) :
    firstLabelled labels (writeAll (before ++ block :: after)) = .ok block.contents := by
  have hread := read_writeAll fun b hb => (isLabel_iff b).mpr (h b hb)
  exact firstLabelled_ok_iff.mpr ⟨before, block.label, after, hread, hmem, hbefore⟩

/-- A text of blocks offers nothing when none of them bears one of the labels. -/
theorem firstLabelled_writeAll_of_unlabelled {labels : List String} {blocks : List Block}
    (h : ∀ b ∈ blocks, b.WellFormed) (hnone : ∀ b ∈ blocks, b.label ∉ labels) :
    ∃ reason, firstLabelled labels (writeAll blocks) = .error reason := by
  have hread := read_writeAll fun b hb => (isLabel_iff b).mpr (h b hb)
  cases hfound : firstLabelled labels (writeAll blocks) with
  | error reason => exact ⟨reason, rfl⟩
  | ok contents =>
    obtain ⟨before, label, after, hsame, hmem, -⟩ := firstLabelled_ok_iff.mp hfound
    -- what was offered would be among the blocks
    rw [hread] at hsame
    cases hsame
    exact absurd hmem (hnone ⟨label, contents⟩ (List.mem_append_right before List.mem_cons_self))

end Pem
end CertChain
