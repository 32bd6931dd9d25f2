import CertChain.Proofs.Pem
import Mathlib.Data.List.TakeWhile

/-!
# A block ends by itself

The last thing of a block that the reader looks for is the dashes of its last line, so what
was found is found again when something is put behind it, and only the gaps behind the dashes
belong to the block besides (`Pem.rawBlock?_append`).

This also says what is left when a written block is cut. If the reader still finds a block,
then that is the whole one, and the octets that were cut off are passed over as gaps; but of
what is written nothing is a gap from some octet on to the end, apart from the line feed
behind the last dash (`Pem.cut_of_rawBlock?`). So a cut block is none, wherever it is cut
(`Pem.firstLabelled_cut`).
-/

namespace CertChain
namespace Pem

/-- **A block is found again** when something is put behind it. -/
theorem rawBlock?_append {input rest : Bytes} {block : RawBlock}
    (h : rawBlock? input = some (block, rest)) :
    ∃ tail, ∀ more, rawBlock? (input ++ more) = some (block, (tail ++ more).dropWhile isGap) := by
  unfold rawBlock? at h
  -- the four searches of the reader, each of which finds its marker
  split at h
  · cases h
  rename_i before opened hopened
  split at h
  · cases h
  rename_i first filled hfilled
  split at h
  · cases h
  rename_i content ended hended
  split at h
  · cases h
  rename_i last tail htail
  simp only [Option.some.injEq, Prod.mk.injEq] at h
  refine ⟨tail, fun more => ?_⟩
  -- there is more than gaps behind the first line, since the last line is there
  have hgap : (filled ++ more).dropWhile isGap = filled.dropWhile isGap ++ more := by
    rw [List.dropWhile_append, if_neg]
    intro hempty
    rw [List.isEmpty_iff.mp hempty] at hended
    cases hended
  unfold rawBlock?
  simp only [splitOn?_append hopened, splitOn?_append hfilled, hgap, splitOn?_append hended,
    splitOn?_append htail]
  rw [← h.1]

/-- What is passed over in front of an octet that is left consists of gaps. -/
theorem isGap_of_dropWhile {octets : Bytes} {b : UInt8}
    (h : (octets ++ [b]).dropWhile isGap = [b]) : ∀ a ∈ octets, isGap a = true := by
  rw [List.dropWhile_append] at h
  split at h
  · rename_i hempty
    exact List.dropWhile_eq_nil_iff.mp (List.isEmpty_iff.mp hempty)
  · -- otherwise something is left of the octets, and there would be two of them
    rename_i hleft
    exact absurd (List.isEmpty_iff.mpr (List.append_left_eq_self.mp h)) hleft

section Cuts

variable {label : String} {contents input cut : Bytes}

/-- What the reader does not miss of a written block consists of gaps. -/
theorem isGap_of_cut (h : IsLabel label) (hwhole : input ++ cut = write label contents)
    {block : RawBlock} {rest : Bytes} (hfound : rawBlock? input = some (block, rest)) :
    ∀ a ∈ cut, isGap a = true := by
  obtain ⟨tail, hagain⟩ := rawBlock?_append hfound
  -- an octet that is no gap, put behind the whole block, shows how far the reader goes
  have hmark := rawBlock?_extent h contents [0x0A, 0x2D]
  have hsame : extent label contents ++ [0x0A, 0x2D] = input ++ (cut ++ [0x2D]) := by
    rw [← List.append_assoc input, hwhole, write_eq, List.append_assoc]
    rfl
  rw [hsame, hagain] at hmark
  simp only [Option.some.injEq, Prod.mk.injEq] at hmark
  have hgaps : ∀ a ∈ tail ++ cut, isGap a = true := by
    refine isGap_of_dropWhile (b := 0x2D) ?_
    rw [List.append_assoc]
    exact hmark.2
  exact fun a ha => hgaps a (List.mem_append_right tail ha)

/-- A block ends in a dash. -/
theorem exists_extent_eq (label : String) (contents : Bytes) :
    ∃ front, extent label contents = front ++ [0x2D] := by
  refine ⟨beginMarker ++ (Bytes.ofText label ++ (dashes ++ (0x0A :: (body contents
    ++ (endMarker ++ (Bytes.ofText label ++ [0x2D, 0x2D, 0x2D, 0x2D])))))), ?_⟩
  rw [extent, show dashes = [0x2D, 0x2D, 0x2D, 0x2D] ++ [0x2D] by decide]
  simp only [List.append_assoc, List.cons_append]

/-- **Nothing but the last line feed** can be cut off a written block. -/
theorem cut_of_rawBlock? (h : IsLabel label) (hwhole : input ++ cut = write label contents)
    {block : RawBlock} {rest : Bytes} (hfound : rawBlock? input = some (block, rest)) :
    cut = [] ∨ cut = [0x0A] := by
  have hgaps := isGap_of_cut h hwhole hfound
  have hdash : (0x2D : UInt8) ∉ cut := fun hmem => absurd (hgaps _ hmem) (by decide)
  obtain ⟨front, hfront⟩ := exists_extent_eq label contents
  rw [write_eq, hfront, List.append_assoc, List.singleton_append] at hwhole
  -- the cut is behind the last dash, for it would have the dash otherwise
  rcases List.append_eq_append_iff.mp hwhole with ⟨more, -, hcut⟩ | ⟨kept, -, hkept⟩
  · rw [hcut] at hdash
    exact absurd (List.mem_append_right more List.mem_cons_self) hdash
  · match kept, hkept with
    | [], hkept =>
      rw [List.nil_append] at hkept
      rw [← hkept] at hdash
      exact absurd List.mem_cons_self hdash
    | [_], hkept => exact .inr (List.tail_eq_of_cons_eq hkept).symm
    | [_, _], hkept =>
      have hempty := List.tail_eq_of_cons_eq (List.tail_eq_of_cons_eq hkept)
      exact .inl hempty.symm
    | _ :: _ :: _ :: _, hkept =>
      have hlength := congrArg List.length hkept
      simp at hlength

/-- **A block that is cut off is none.** -/
theorem firstLabelled_cut (h : IsLabel label) (hwhole : input ++ cut = write label contents)
    (hcut : cut ≠ []) (hfeed : cut ≠ [0x0A]) (labels : List String) :
    firstLabelled labels input = .error .noBlock := by
  have hnone : rawBlock? input = none := by
    cases hfound : rawBlock? input with
    | none => rfl
    | some found =>
      rcases cut_of_rawBlock? h hwhole hfound with hempty | hlast
      · exact absurd hempty hcut
      · exact absurd hlast hfeed
  rw [firstLabelled, read, rawBlocks_of_none hnone]
  rfl

end Cuts

end Pem
end CertChain
