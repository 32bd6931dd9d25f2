import CertChain.Proofs.Pem.Decoding
import CertChain.Proofs.Text.Utf

/-!
# Written blocks are read back

`Pem.read_extent_append` says that a block in front of a text is read as what was written, and
the text behind it as if the block were not there. So blocks which are written one behind the
other are what the reader finds, in order, and nothing else (`Pem.read_writeAll`), and what
the block in front offers depends on the others only in that none of them may be faulty
(`Pem.firstLabelled_extent_append`).

The reader knows nothing of blocks: it looks for four markers, one after the other. So the
proof is about `Pem.splitOn?` first.

* A marker is found behind whatever does not have its first octet
  (`Pem.splitOn?_of_not_mem`). This is how the dashes behind a body are found: no letter of
  base64 is a dash.
* What was found stays found when something is put behind it (`Pem.splitOn?_append`). This
  is how the dashes behind a label are found, for every label that they end by themselves
  (`Pem.IsLabel`).
* A body has no empty line (`Pem.splitHeaders_body`), so none of it is taken for headers.

A block is taken from its first dash to its last (`Pem.extent`). The line feed behind that is
passed over like any other gap, and passing over gaps changes nothing (`Pem.read_dropWhile`).
-/

namespace CertChain
namespace Pem

/-! ### Looking for markers -/

/-- Octets other than the first of the marker are passed over. -/
theorem seek_of_not_mem {m : UInt8} {ms before : Bytes} (h : m ∉ before) (seen rest : Bytes) :
    seek (m :: ms) (m :: ms) seen (before ++ rest)
      = seek (m :: ms) (m :: ms) (before.reverse ++ seen) rest := by
  -- what has been seen is kept backwards, and the whole marker is still due all the time
  induction before generalizing seen with
  | nil => rfl
  | cons b before ih =>
    have hb : b ≠ m := fun heq => h (heq ▸ List.mem_cons_self)
    have hbefore : m ∉ before := fun hmem => h (List.mem_cons_of_mem b hmem)
    have hdue : stillDue (m :: ms) (m :: ms) b = m :: ms := if_neg hb
    have hmore : ¬ (m :: ms).isEmpty = true := Bool.false_ne_true
    rw [List.cons_append, seek, hdue, if_neg hmore, ih hbefore, List.reverse_cons,
      List.append_assoc]
    rfl

/-- What is still due of the marker is found at once. -/
theorem seek_due {marker due : Bytes} (h : due ≠ []) (seen after : Bytes) :
    seek marker due seen (due ++ after)
      = some (((due.reverse ++ seen).drop marker.length).reverse, after) := by
  induction due generalizing seen with
  | nil => exact absurd rfl h
  | cons d due ih =>
    have hdue : stillDue marker (d :: due) d = due := if_pos rfl
    rw [List.cons_append, seek, hdue]
    -- the last octet of the marker ends the search
    by_cases hlast : due = []
    · subst hlast
      rfl
    · rw [if_neg (by simpa using hlast), ih hlast, List.reverse_cons, List.append_assoc]
      rfl

/-- **A marker is found** behind what does not have its first octet. -/
theorem splitOn?_of_not_mem {m : UInt8} {before : Bytes} (h : m ∉ before) (ms after : Bytes) :
    splitOn? (m :: ms) (before ++ (m :: ms ++ after)) = some (before, after) := by
  rw [splitOn?, seek_of_not_mem h, seek_due (List.cons_ne_nil m ms)]
  rw [List.append_nil, List.drop_left' (List.length_reverse), List.reverse_reverse]

/-- A marker is not found where its first octet is missing. -/
theorem splitOn?_eq_none {m : UInt8} {input : Bytes} (h : m ∉ input) (ms : Bytes) :
    splitOn? (m :: ms) input = none := by
  -- all of the input is passed over, and then there is nothing left
  have hpass := @seek_of_not_mem m ms input h [] []
  rw [List.append_nil] at hpass
  rw [splitOn?, hpass]
  rfl

/-- What was found stays found. -/
theorem seek_append {marker due seen input before after : Bytes}
    (h : seek marker due seen input = some (before, after)) (rest : Bytes) :
    seek marker due seen (input ++ rest) = some (before, after ++ rest) := by
  induction input generalizing due seen with
  | nil => cases h
  | cons b input ih =>
    rw [seek] at h
    rw [List.cons_append, seek]
    -- either the marker is complete with this octet, or the search goes on behind it
    split at h
    · rename_i hfound
      cases h
      rw [if_pos hfound]
    · rename_i hnot
      rw [if_neg hnot, ih h]

/-- A marker that was found is found again when something is put behind the text. -/
theorem splitOn?_append {marker input before after : Bytes}
    (h : splitOn? marker input = some (before, after)) (rest : Bytes) :
    splitOn? marker (input ++ rest) = some (before, after ++ rest) :=
  seek_append h rest

/-! ### Labels -/

/-- **A label that is found again**: there is something in it, and the first five dashes in a
row are the ones behind it. -/
def IsLabel (label : String) : Prop :=
  label ≠ "" ∧ splitOn? dashes (Bytes.ofText label ++ dashes) = some (Bytes.ofText label, [])

/-- Whether a label is found again is a matter of looking for it. -/
instance (label : String) : Decidable (IsLabel label) :=
  inferInstanceAs (Decidable (_ ∧ _))

/-- The dashes behind a label are found, whatever comes after them. -/
theorem splitOn?_label {label : String} (h : IsLabel label) (rest : Bytes) :
    splitOn? dashes (Bytes.ofText label ++ (dashes ++ rest)) = some (Bytes.ofText label, rest) := by
  have hfound := splitOn?_append h.2 rest
  rw [List.append_assoc] at hfound
  exact hfound

/-! ### Bodies -/

/-- The octets between the two marker lines of a block. -/
def body (contents : Bytes) : Bytes :=
  Bytes.ofText (String.ofList (wrap (Base64.encode contents)))

variable {cs : List Char}

/-- Lines are made of the characters they hold and of line feeds. -/
theorem mem_wrap {c : Char} (h : c ∈ wrap cs) : c ∈ cs ∨ c = '\n' := by
  fun_induction wrap cs with
  | case1 => exact .inl h
  | case2 cs hne ih =>
    rcases List.mem_append.mp h with hline | hrest
    · exact .inl (List.mem_of_mem_take hline)
    · rcases List.mem_cons.mp hrest with rfl | hmore
      · exact .inr rfl
      · rcases ih hmore with hdrop | hfeed
        · exact .inl (List.mem_of_mem_drop hdrop)
        · exact .inr hfeed

/-- Without its line feeds, what was wrapped is what it was. -/
theorem filter_wrap {keep : Char → Bool} (hkeep : ∀ c ∈ cs, keep c = true)
    (hfeed : keep '\n' = false) : (wrap cs).filter keep = cs := by
  fun_induction wrap cs with
  | case1 => rfl
  | case2 cs hne ih =>
    have htake : (cs.take lineLength).filter keep = cs.take lineLength :=
      List.filter_eq_self.mpr fun c hc => hkeep c (List.mem_of_mem_take hc)
    have hdrop := ih fun c hc => hkeep c (List.mem_of_mem_drop hc)
    rw [List.filter_append, htake, List.filter_cons_of_neg (by simp [hfeed]), hdrop,
      List.take_append_drop]

/-- The octet of a letter or of a line feed. -/
def octet (c : Char) : UInt8 :=
  UInt8.ofNat c.toNat

/-- A body has one octet for each letter and each line feed. -/
theorem body_eq (contents : Bytes) : body contents = (wrap (Base64.encode contents)).map octet := by
  refine Bytes.ofText_of_ascii fun c hc => ?_
  -- letters and line feeds stand in ASCII
  rcases mem_wrap hc with hletter | rfl
  · have hrange := Base64.range_of_isLetter (Base64.isLetter_of_mem_encode hletter)
    omega
  · decide

/-- The octet of a letter is not that of anything else below 256. -/
theorem octet_ne {c : Char} (hc : Base64.isLetter c = true) {b : UInt8}
    (hb : Base64.isLetter (Char.ofNat b.toNat) = false) : octet c ≠ b := by
  intro heq
  have hrange := Base64.range_of_isLetter hc
  have hback : Char.ofNat b.toNat = c := by
    rw [← heq, octet, UInt8.toNat_ofNat', Nat.mod_eq_of_lt (by omega), Char.ofNat_toNat]
  rw [hback, hc] at hb
  cases hb

/-- There is nothing in a body but letters and line feeds. -/
theorem not_mem_body {contents : Bytes} {b : UInt8}
    (hb : Base64.isLetter (Char.ofNat b.toNat) = false) (hfeed : octet '\n' ≠ b) :
    b ∉ body contents := by
  rw [body_eq]
  intro hmem
  obtain ⟨c, hc, heq⟩ := List.mem_map.mp hmem
  rcases mem_wrap hc with hletter | rfl
  · exact octet_ne (Base64.isLetter_of_mem_encode hletter) hb heq
  · exact hfeed heq

/-- Letters begin a body, if anything does. -/
theorem body_cases (contents : Bytes) :
    body contents = [] ∨ ∃ c rest, Base64.isLetter c = true ∧ body contents = octet c :: rest := by
  rw [body_eq]
  cases hencoded : Base64.encode contents with
  | nil =>
    refine .inl ?_
    rw [wrap]
    rfl
  | cons c cs =>
    have hc : Base64.isLetter c = true :=
      Base64.isLetter_of_mem_encode (hencoded ▸ List.mem_cons_self)
    -- the first line has the letter and up to sixty-three others
    refine .inr ⟨c, (cs.take 63 ++ '\n' :: wrap (cs.drop 63)).map octet, hc, ?_⟩
    rw [wrap, dif_neg (List.cons_ne_nil c cs)]
    rfl

/-! ### Headers -/

/-- A letter makes the search for an empty line start afresh. -/
theorem stillDue_letter {c : Char} (hc : Base64.isLetter c = true) {due : Bytes}
    (hdue : due = [0x0A, 0x0A] ∨ due = [0x0A]) :
    stillDue [0x0A, 0x0A] due (octet c) = [0x0A, 0x0A] := by
  have hne : octet c ≠ 0x0A := octet_ne hc (by decide)
  rcases hdue with rfl | rfl <;> exact if_neg hne

/-- A line of letters makes the search for an empty line wait for one line feed more. -/
theorem seek_line {line : List Char} (hletters : ∀ c ∈ line, Base64.isLetter c = true)
    (hne : line ≠ []) {due : Bytes} (hdue : due = [0x0A, 0x0A] ∨ due = [0x0A]) (seen rest : Bytes) :
    seek [0x0A, 0x0A] due seen (line.map octet ++ 0x0A :: rest)
      = seek [0x0A, 0x0A] [0x0A] (0x0A :: ((line.map octet).reverse ++ seen)) rest := by
  induction line generalizing due seen with
  | nil => exact absurd rfl hne
  | cons c line ih =>
    have hstill := stillDue_letter (hletters c List.mem_cons_self) hdue
    rw [List.map_cons, List.cons_append, seek, hstill, if_neg (by decide)]
    -- behind the last letter stands the line feed, and behind any other one a letter again
    by_cases hlast : line = []
    · subst hlast
      rfl
    · rw [ih (fun d hd => hletters d (List.mem_cons_of_mem c hd)) hlast (.inl rfl),
        List.reverse_cons, List.append_assoc]
      rfl

/-- No empty line is found among lines of letters. -/
theorem seek_wrap (hletters : ∀ c ∈ cs, Base64.isLetter c = true) {due : Bytes}
    (hdue : due = [0x0A, 0x0A] ∨ due = [0x0A]) (seen : Bytes) :
    seek [0x0A, 0x0A] due seen ((wrap cs).map octet) = none := by
  -- at the end of every line one line feed is due, and the next line begins with a letter
  fun_induction wrap cs generalizing due seen with
  | case1 => rfl
  | case2 cs hne ih =>
    have hline : cs.take lineLength ≠ [] := by
      simpa [lineLength] using hne
    rw [List.map_append, List.map_cons, show octet '\n' = 0x0A from rfl,
      seek_line (fun c hc => hletters c (List.mem_of_mem_take hc)) hline hdue]
    exact ih (fun c hc => hletters c (List.mem_of_mem_drop hc)) (.inr rfl) _

/-- **A body has no empty line**, so there are no headers in it. -/
theorem splitHeaders_body (contents : Bytes) :
    splitHeaders (body contents) = ([], body contents) := by
  have hfeeds : splitOn? [0x0A, 0x0A] (body contents) = none := by
    rw [body_eq]
    exact seek_wrap (fun c hc => Base64.isLetter_of_mem_encode hc) (.inl rfl) []
  -- there is no carriage return at all
  have hreturns : splitOn? [0x0D, 0x0A, 0x0D, 0x0A] (body contents) = none :=
    splitOn?_eq_none (not_mem_body (by decide) (by decide)) [0x0A, 0x0D, 0x0A]
  rw [splitHeaders, hfeeds, hreturns]

/-! ### Blocks -/

/-- The block that is written, as it stands in the text. -/
def rawBlock (label : String) (contents : Bytes) : RawBlock :=
  ⟨Bytes.ofText label, [], body contents, Bytes.ofText label⟩

/-- A block from its first dash to its last. What is written has a line feed behind that. -/
def extent (label : String) (contents : Bytes) : Bytes :=
  beginMarker ++ (Bytes.ofText label ++ (dashes ++ (0x0A
    :: (body contents ++ (endMarker ++ (Bytes.ofText label ++ dashes))))))

/-- What is written is a block and a line feed. -/
theorem write_eq (label : String) (contents : Bytes) :
    write label contents = extent label contents ++ [0x0A] := by
  simp only [write, extent, body, List.append_assoc, List.cons_append, List.nil_append]

/-- Nothing of a body is a gap, and neither is the dash behind it. -/
theorem dropWhile_body (contents rest : Bytes) :
    (0x0A :: (body contents ++ 0x2D :: rest)).dropWhile isGap = body contents ++ 0x2D :: rest := by
  rw [List.dropWhile_cons_of_pos rfl]
  rcases body_cases contents with hempty | ⟨c, more, hc, hbody⟩
  · rw [hempty, List.nil_append, List.dropWhile_cons_of_neg (by decide)]
  · -- a letter is none of the four octets that make a gap
    have hgap : isGap (octet c) = false := by
      have hspace := octet_ne hc (b := 0x20) (by decide)
      have htab := octet_ne hc (b := 0x09) (by decide)
      have hfeed := octet_ne hc (b := 0x0A) (by decide)
      have hreturn := octet_ne hc (b := 0x0D) (by decide)
      simp [isGap, hspace, htab, hfeed, hreturn]
    rw [hbody, List.cons_append, List.dropWhile_cons_of_neg (by simp [hgap])]

/-- **A written block is the first block found**, whatever stands behind it. -/
theorem rawBlock?_extent {label : String} (h : IsLabel label) (contents rest : Bytes) :
    rawBlock? (extent label contents ++ rest)
      = some (rawBlock label contents, rest.dropWhile isGap) := by
  have hbegin : ∀ opened, splitOn? beginMarker (beginMarker ++ opened) = some ([], opened) :=
    splitOn?_append (by decide : splitOn? beginMarker beginMarker = some ([], []))
  have hdash : endMarker = 0x2D :: endMarker.tail := by decide
  have hgap : ∀ ended, (0x0A :: (body contents ++ (endMarker ++ ended))).dropWhile isGap
      = body contents ++ (endMarker ++ ended) := by
    rw [hdash]
    exact fun ended => dropWhile_body contents _
  have hend : ∀ ended, splitOn? endMarker (body contents ++ (endMarker ++ ended))
      = some (body contents, ended) := by
    rw [hdash]
    exact splitOn?_of_not_mem (not_mem_body (by decide) (by decide)) _
  -- the four searches of the reader, in the order in which it makes them
  rw [extent]
  simp only [List.append_assoc, List.cons_append]
  unfold rawBlock?
  simp only [hbegin, splitOn?_label h, hgap, hend, splitHeaders_body]
  rfl

/-- There are no lines in a text without characters. -/
theorem linesOf_empty : linesOf "" = [] := by
  have hsplit : "".splitOn "\n" = [""] := by
    unfold String.splitOn
    rw [String.splitOnAux]
    rfl
  unfold linesOf
  rw [hsplit]
  rfl

/-- **A written block holds** what was written. -/
theorem holds_rawBlock {label : String} (h : IsLabel label) (contents : Bytes) :
    (rawBlock label contents).Holds ⟨label, contents⟩ where
  named := h.1
  first := Utf8.decode?_ofText label
  last := Utf8.decode?_ofText label
  body := by
    refine ⟨String.ofList (wrap (Base64.encode contents)), Utf8.decode?_ofText _, ?_⟩
    -- white space is taken out of the body, and that is the line feeds
    rw [String.toList_ofList]
    refine filter_wrap (fun c hc => ?_) (by decide)
    rw [Base64.not_isWhiteSpace_of_isLetter (Base64.isLetter_of_mem_encode hc)]
    rfl
  headers := by
    refine ⟨"", Utf8.decode?_ofText "", ?_⟩
    rw [linesOf_empty]
    intro line hline
    cases hline

/-! ### Texts -/

/-- Where no block is found there are none. -/
theorem rawBlocks_of_none {input : Bytes} (h : rawBlock? input = none) : rawBlocks input = [] := by
  rw [rawBlocks]
  split
  · rfl
  · rename_i hsome
    rw [hsome] at h
    cases h

/-- Where a block is found, the others are those behind it. -/
theorem rawBlocks_of_some {input rest : Bytes} {block : RawBlock}
    (h : rawBlock? input = some (block, rest)) : rawBlocks input = block :: rawBlocks rest := by
  rw [rawBlocks]
  split
  · rename_i hnone
    rw [hnone] at h
    cases h
  · rename_i hsome
    rw [hsome] at h
    cases h
    rfl

/-- The search for a marker ends where it ends, whatever was read before. -/
theorem map_snd_seek (marker due seen other input : Bytes) :
    (seek marker due seen input).map Prod.snd = (seek marker due other input).map Prod.snd := by
  induction input generalizing due seen other with
  | nil => rfl
  | cons b rest ih =>
    rw [seek, seek]
    split
    · rfl
    · exact ih (stillDue marker due b) (b :: seen) (b :: other)

/-- Gaps in front of a text are passed over. -/
theorem map_snd_splitOn?_dropWhile (input : Bytes) :
    (splitOn? beginMarker (input.dropWhile isGap)).map Prod.snd
      = (splitOn? beginMarker input).map Prod.snd := by
  have hmarker : beginMarker = 0x2D :: beginMarker.tail := by decide
  have hgaps : (0x2D : UInt8) ∉ input.takeWhile isGap := by
    intro hmem
    exact absurd (List.all_eq_true.mp List.all_takeWhile _ hmem) (by decide)
  -- no gap is a dash, so the whole marker is still due behind the gaps
  have hpass : splitOn? beginMarker input
      = seek beginMarker beginMarker (input.takeWhile isGap).reverse (input.dropWhile isGap) := by
    have h := @seek_of_not_mem 0x2D beginMarker.tail (input.takeWhile isGap) hgaps []
      (input.dropWhile isGap)
    rw [List.takeWhile_append_dropWhile, List.append_nil, ← hmarker] at h
    exact h
  rw [hpass]
  exact map_snd_seek beginMarker beginMarker [] _ _

/-- Gaps in front of a text do not change the block that is found first. -/
theorem rawBlock?_dropWhile (input : Bytes) :
    rawBlock? (input.dropWhile isGap) = rawBlock? input := by
  have hsnd := map_snd_splitOn?_dropWhile input
  unfold rawBlock?
  -- what stands before the first marker is not looked at
  cases hleft : splitOn? beginMarker (input.dropWhile isGap) with
  | none =>
    rw [hleft] at hsnd
    rw [Option.map_eq_none_iff.mp hsnd.symm]
  | some left =>
    rw [hleft] at hsnd
    obtain ⟨right, hright, hrest⟩ := Option.map_eq_some_iff.mp hsnd.symm
    rw [hright]
    simp only [hrest]

/-- Gaps in front of a text do not change its blocks. -/
theorem rawBlocks_dropWhile (input : Bytes) :
    rawBlocks (input.dropWhile isGap) = rawBlocks input := by
  cases hblock : rawBlock? input with
  | none => rw [rawBlocks_of_none hblock, rawBlocks_of_none (rawBlock?_dropWhile input ▸ hblock)]
  | some found =>
    obtain ⟨block, rest⟩ := found
    rw [rawBlocks_of_some hblock, rawBlocks_of_some (rawBlock?_dropWhile input ▸ hblock)]

/-- Gaps in front of a text do not change how it is read. -/
theorem read_dropWhile (input : Bytes) : read (input.dropWhile isGap) = read input := by
  rw [read, read, rawBlocks_dropWhile]

/-- A text without octets is read as no blocks. -/
theorem read_nil : read [] = .ok [] := by
  rw [read, rawBlocks_of_none rfl]
  rfl

/-- The line feed behind a block is a gap. -/
theorem read_feed_cons (rest : Bytes) : read (0x0A :: rest) = read rest := by
  rw [← read_dropWhile, List.dropWhile_cons_of_pos rfl, read_dropWhile]

/-- **A written block is read**, and then what stands behind it. -/
theorem read_extent_append {label : String} (h : IsLabel label) (contents rest : Bytes) :
    read (extent label contents ++ rest) = (read rest).map (⟨label, contents⟩ :: ·) := by
  rw [read, rawBlocks_of_some (rawBlock?_extent h contents rest), rawBlocks_dropWhile,
    List.mapM_cons, (holds_rawBlock h contents).decode_eq, read]
  cases (rawBlocks rest).mapM RawBlock.decode with
  | error e => rfl
  | ok blocks => rfl

/-- The blocks one behind the other. -/
def writeAll (blocks : List Block) : Bytes :=
  blocks.flatMap fun block => write block.label block.contents

/-- **Written blocks are read back.** -/
theorem read_writeAll {blocks : List Block} (h : ∀ block ∈ blocks, IsLabel block.label) :
    read (writeAll blocks) = .ok blocks := by
  induction blocks with
  | nil => exact read_nil
  | cons block blocks ih =>
    have hmore := ih fun b hb => h b (List.mem_cons_of_mem block hb)
    -- behind the block stand its line feed and the other blocks
    change read (write block.label block.contents ++ writeAll blocks) = _
    rw [write_eq, List.append_assoc, List.singleton_append,
      read_extent_append (h block List.mem_cons_self), read_feed_cons, hmore]
    rfl

/-- **The block in front** is the one that is offered, provided that no other one is faulty. -/
theorem firstLabelled_extent_append {label : String} (h : IsLabel label) {labels : List String}
    (hmem : label ∈ labels) (contents rest : Bytes) :
    firstLabelled labels (extent label contents ++ rest) = (read rest).map fun _ => contents := by
  rw [firstLabelled, read_extent_append h]
  cases read rest with
  | error e => rfl
  | ok blocks =>
    have hfind : ((⟨label, contents⟩ : Block) :: blocks).find?
        (fun block => labels.contains block.label) = some ⟨label, contents⟩ := by
      rw [List.find?_cons_of_pos (by simpa using hmem)]
    simp only [Except.map, bind, Except.bind, hfind]
    rfl

/-- **A single block** offers what was written. -/
theorem firstLabelled_write {label : String} (h : IsLabel label) {labels : List String}
    (hmem : label ∈ labels) (contents : Bytes) :
    firstLabelled labels (write label contents) = .ok contents := by
  rw [write_eq, firstLabelled_extent_append h hmem, read_feed_cons, read_nil]
  rfl

end Pem
end CertChain
