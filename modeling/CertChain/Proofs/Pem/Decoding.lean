import CertChain.Pem
import CertChain.Proofs.Outcome
import CertChain.Proofs.Text.Base64
import Mathlib.Data.List.Forall2

/-!
# What the blocks of a text hold

A block is read octet by octet and has many ways to be faulty. `Pem.RawBlock.Holds` says what
it has to be, without saying how it is read: two labels that are the same text, header lines
with a colon each, and a body that is the base64 form of the contents once white space is
taken out of it. `Pem.RawBlock.decode_ok_iff` says that this is what the reader asks for.

A text is read when all of its blocks are (`Pem.read_ok_iff`), and what it offers is the
first of them that bears one of the labels asked for (`Pem.firstLabelled_ok_iff`).
-/

namespace CertChain
namespace Pem

/-! ### One block -/

/-- **What a block in a text holds.** Base64 has one written form, so the letters of the body
are those of the contents and of no others. -/
structure RawBlock.Holds (raw : RawBlock) (block : Block) : Prop where
  named : block.label ≠ ""
  first : Utf8.decode? raw.first = some block.label
  last : Utf8.decode? raw.last = some block.label
  body : ∃ text, Utf8.decode? raw.body = some text
    ∧ (text.toList.filter fun c => !isWhiteSpace c) = Base64.encode block.contents
  headers : ∃ text, Utf8.decode? raw.headers = some text
    ∧ ∀ line ∈ linesOf text, line.contains ':' = true

namespace RawBlock

variable {raw : RawBlock} {block : Block}

/-- What is read is what the block holds. -/
theorem holds_of_decode (h : raw.decode = .ok block) : raw.Holds block := by
  unfold decode at h
  -- the reader asks one thing after the other, and every answer but the good one ends it
  cases hfirst : Utf8.decode? raw.first with
  | none =>
    rw [hfirst] at h
    cases h
  | some label =>
    simp only [hfirst] at h
    split at h
    · cases h
    rename_i hnamed
    split at h
    swap
    · cases h
    rename_i last hlast
    split at h
    · cases h
    split at h
    · cases h
    rename_i hsame
    split at h
    swap
    · cases h
    rename_i body hbody
    split at h
    swap
    · cases h
    rename_i contents hcontents
    split at h
    swap
    · cases h
    rename_i headers hheaders
    split at h
    · cases h
    rename_i hcolons
    cases h
    have hlabel : label = last := Decidable.not_not.mp hsame
    refine ⟨?_, hfirst, hlabel ▸ hlast, ⟨body, hbody, ?_⟩, ⟨headers, hheaders, ?_⟩⟩
    · intro hempty
      exact hnamed (String.isEmpty_iff.mpr hempty)
    · exact Base64.decode?_eq_some_iff.mp hcontents
    · intro line hline
      by_contra hcolon
      exact hcolons (List.any_eq_true.mpr ⟨line, hline, by simpa using hcolon⟩)

/-- What the block holds is read. -/
theorem Holds.decode_eq (h : raw.Holds block) : raw.decode = .ok block := by
  obtain ⟨hnamed, hfirst, hlast, ⟨body, hbody, hletters⟩, ⟨headers, hheaders, hcolons⟩⟩ := h
  have hempty : block.label.isEmpty = false := by
    rw [← Bool.not_eq_true, String.isEmpty_iff]
    exact hnamed
  -- no header line is without a colon
  have hany : ((linesOf headers).any fun line => !line.contains ':') = false := by
    rw [List.any_eq_false]
    intro line hline
    rw [hcolons line hline]
    decide
  simp only [decode, hfirst, hlast, hbody, hletters, hheaders, hempty, hany,
    Base64.decode?_encode, ne_eq, not_true_eq_false, Bool.false_eq_true, if_false]
  rfl

/-- **A block is read** as what it holds, and not at all when it holds nothing. -/
theorem decode_ok_iff : raw.decode = .ok block ↔ raw.Holds block :=
  ⟨holds_of_decode, Holds.decode_eq⟩

end RawBlock

/-! ### All blocks -/

/-- **A text is read when all of its blocks are.** -/
theorem read_ok_iff {input : Bytes} {blocks : List Block} :
    read input = .ok blocks ↔ List.Forall₂ RawBlock.Holds (rawBlocks input) blocks := by
  rw [read, mapM_ok_iff]
  simp only [RawBlock.decode_ok_iff]

/-- No block of a text that is read is faulty, and that is enough. -/
theorem exists_read_iff {input : Bytes} :
    (∃ blocks, read input = .ok blocks) ↔ ∀ raw ∈ rawBlocks input, ∃ block, raw.Holds block := by
  simp only [read_ok_iff, exists_forall₂_iff]

/-- And a text that is not read has a faulty block. -/
theorem exists_read_error_iff {input : Bytes} :
    (∃ reason, read input = .error reason)
      ↔ ∃ raw ∈ rawBlocks input, ∀ block, ¬ raw.Holds block := by
  -- either comes of reading, and not both
  have hread : (∃ reason, read input = .error reason) ↔ ¬ ∃ blocks, read input = .ok blocks := by
    cases read input with
    | ok blocks => simp
    | error reason => simp
  rw [hread, exists_read_iff]
  simp only [not_forall, not_exists, exists_prop]

/-- What a text offers, when it is read: the contents of the first block with one of the
labels. -/
theorem firstLabelled_ok_iff {labels : List String} {input contents : Bytes} :
    firstLabelled labels input = .ok contents ↔
      ∃ before label after, read input = .ok (before ++ ⟨label, contents⟩ :: after)
        ∧ label ∈ labels ∧ ∀ block ∈ before, block.label ∉ labels := by
  constructor
  · intro h
    obtain ⟨blocks, hread, h⟩ := bind_ok h
    -- there must be a block at all, and one of them must have a label that is asked for
    by_cases hempty : blocks.isEmpty
    · rw [if_pos hempty] at h
      cases h
    · rw [if_neg hempty] at h
      split at h
      · rename_i block hfind
        cases h
        obtain ⟨hmem, before, after, rfl, hbefore⟩ := List.find?_eq_some_iff_append.mp hfind
        refine ⟨before, block.label, after, hread, by simpa using hmem, ?_⟩
        intro b hb
        simpa using hbefore b hb
      · cases h
  · rintro ⟨before, label, after, hread, hmem, hbefore⟩
    have hfind : (before ++ ⟨label, contents⟩ :: after).find?
        (fun block => labels.contains block.label) = some ⟨label, contents⟩ := by
      refine List.find?_eq_some_iff_append.mpr ⟨by simpa using hmem, before, after, rfl, ?_⟩
      intro b hb
      simpa using hbefore b hb
    rw [firstLabelled, hread]
    simp only [bind, Except.bind, hfind]
    rw [if_neg (by simp)]
    rfl

/-- A block among others stands in the text among the others. -/
theorem exists_holds_of_forall₂ {raws : List RawBlock} {before after : List Block} {block : Block}
    (h : List.Forall₂ RawBlock.Holds raws (before ++ block :: after)) :
    ∃ others raw more, raws = others ++ raw :: more ∧ raw.Holds block
      ∧ ∀ other ∈ others, ∃ b ∈ before, other.Holds b := by
  induction before generalizing raws with
  | nil =>
    obtain ⟨raw, more, hraw, -, rfl⟩ := List.forall₂_cons_right_iff.mp h
    exact ⟨[], raw, more, rfl, hraw, List.forall_mem_nil _⟩
  | cons b before ih =>
    obtain ⟨first, rest, hfirst, hrest, rfl⟩ := List.forall₂_cons_right_iff.mp h
    obtain ⟨others, raw, more, rfl, hraw, hothers⟩ := ih hrest
    refine ⟨first :: others, raw, more, rfl, hraw, ?_⟩
    intro other hother
    rcases List.mem_cons.mp hother with rfl | hother
    · exact ⟨b, List.mem_cons_self, hfirst⟩
    · obtain ⟨b', hb', hholds⟩ := hothers other hother
      exact ⟨b', List.mem_cons_of_mem b hb', hholds⟩

/-- The block that a text offers, as it stands in the text: all blocks before it hold something
too, but under other labels. -/
theorem exists_rawBlock_of_firstLabelled {labels : List String} {input contents : Bytes}
    (h : firstLabelled labels input = .ok contents) :
    ∃ before raw after label, rawBlocks input = before ++ raw :: after
      ∧ label ∈ labels ∧ raw.Holds ⟨label, contents⟩
      ∧ ∀ other ∈ before, ∃ block, other.Holds block ∧ block.label ∉ labels := by
  obtain ⟨before, label, after, hread, hmem, hbefore⟩ := firstLabelled_ok_iff.mp h
  -- reading keeps the order, so the block stands in the text where it is among the blocks
  obtain ⟨others, raw, more, hraws, hraw, hothers⟩ := exists_holds_of_forall₂ (read_ok_iff.mp hread)
  refine ⟨others, raw, more, label, hraws, hmem, hraw, ?_⟩
  intro other hother
  obtain ⟨block, hblock, hholds⟩ := hothers other hother
  exact ⟨block, hholds, hbefore block hblock⟩

end Pem
end CertChain
