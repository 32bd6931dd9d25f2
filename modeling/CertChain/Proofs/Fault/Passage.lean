import CertChain.Fault.Trace
import CertChain.Proofs.Datum

/-!
# Which passages can be shown

A passage is made of plain data that nobody has looked at, and showing it is a computation that may
go wrong in many places. What it takes for all of them to go right can be said beforehand
(`Passage.Showable`): what is written of it can be written, the text is one if it is there, and so
are the columns that the marks are set under. That this is all is `Passage.showable_iff`.

The columns are the part with an argument in it. Where the marks end is found by comparing data of
any kind (`Passage.end?`, `Datum.same`) before anybody has asked whether they are numbers. It makes
no difference: a second column that is no number is the same as no number, so it is left as it is
and falls through at the subtraction (`Passage.span_ok_iff`).
-/

namespace CertChain

namespace Passage

variable {p : Passage}

/-! ### Columns -/

/-- **The columns of marks**: the first one is a number, and so is the second one if it is there. -/
structure HasColumns (p : Passage) : Prop where
  column : p.column.isNumber = true
  endColumn : p.endColumn = .null ∨ p.endColumn.isNumber = true

/-- Exactly the numbers can be subtracted. -/
theorem subtrahend_ok_iff {d : Datum} : (∃ n, subtrahend d = .ok n) ↔ d.isNumber = true := by
  unfold subtrahend Datum.isNumber
  cases d.number? with
  | none => exact ⟨fun ⟨n, h⟩ => (nomatch h), fun h => (nomatch h)⟩
  | some n => exact ⟨fun _ => rfl, fun _ => ⟨n, rfl⟩⟩

/-- Behind a number there is one. -/
theorem next_ok {d : Datum} (h : d.isNumber = true) :
    ∃ e, next d = .ok e ∧ e.isNumber = true := by
  unfold next
  obtain ⟨n, hn⟩ := Option.isSome_iff_exists.mp h
  rw [hn]
  exact ⟨.int (n + 1), rfl, rfl⟩

/-- Where the marks end is a number or not said, if the second column is one or is not there. -/
theorem end?_ok (h : p.HasColumns) :
    ∃ last, p.end? = .ok last ∧ (last.getD p.column).isNumber = true := by
  unfold end?
  obtain ⟨hcolumn, hend⟩ := h
  -- a number may mean the same as none at all, and then the first column takes its place
  cases hd : p.endColumn with
  | null => exact ⟨none, rfl, hcolumn⟩
  | bool b =>
    refine ⟨_, rfl, ?_⟩
    split
    · exact hcolumn
    · rfl
  | int n =>
    refine ⟨_, rfl, ?_⟩
    split
    · exact hcolumn
    · rfl
  | text s =>
    rw [hd] at hend
    rcases hend with h | h <;> cases h
  | list items =>
    rw [hd] at hend
    rcases hend with h | h <;> cases h

/-- A number is kept apart from the column, if that is one too. -/
theorem apart_ok {last : Datum} (hcolumn : p.column.isNumber = true)
    (hlast : last.isNumber = true) : ∃ d, p.apart last = .ok d ∧ d.isNumber = true := by
  unfold apart
  split
  · exact next_ok hcolumn
  · exact ⟨last, rfl, hlast⟩

/-- What is no number is no column either, and stays where it is. -/
theorem apart_of_not_isNumber {last : Datum} (hcolumn : p.column.isNumber = true)
    (hlast : last.isNumber = false) : p.apart last = .ok last := by
  unfold apart
  have hsame : p.column.same last = false := Datum.same_eq_false hcolumn hlast
  rw [hsame, Datum.number?_eq_none_iff.mpr hlast]
  rfl

/-- **Marks have a beginning and an end exactly if there are columns for them.** -/
theorem span_ok_iff : (∃ s, p.span = .ok s) ↔ p.HasColumns := by
  constructor
  · rintro ⟨s, h⟩
    obtain ⟨last, hend, h⟩ := bind_ok h
    obtain ⟨moved, hmoved, h⟩ := bind_ok h
    obtain ⟨n, hcolumn, h⟩ := bind_ok h
    obtain ⟨m, hlast, -⟩ := bind_ok h
    have hnumber : p.column.isNumber = true := subtrahend_ok_iff.mp ⟨n, hcolumn⟩
    refine ⟨hnumber, ?_⟩
    -- it remains to be seen that the second column is a number, if the subtraction has succeeded
    unfold end? at hend
    cases hd : p.endColumn with
    | null => exact .inl rfl
    | bool b => exact .inr rfl
    | int n => exact .inr rfl
    | text s =>
      -- the text is compared, stays where it is, and cannot be subtracted from
      rw [hd] at hend
      cases hend
      have hstays : p.apart (.text s) = .ok (.text s) := apart_of_not_isNumber hnumber rfl
      cases hstays.symm.trans hmoved
      cases hlast
    | list items =>
      rw [hd] at hend
      cases hend
  · intro h
    obtain ⟨last, hend, hnumber⟩ := end?_ok h
    obtain ⟨moved, hmoved, hmovedNumber⟩ := apart_ok h.column hnumber
    obtain ⟨n, hn⟩ := subtrahend_ok_iff.mpr h.column
    obtain ⟨m, hm⟩ := subtrahend_ok_iff.mpr hmovedNumber
    refine ⟨(n, m), bind_ok_iff.mpr ⟨last, hend, bind_ok_iff.mpr ⟨moved, hmoved, ?_⟩⟩⟩
    rw [hn, hm]
    rfl

/-! ### Marks -/

/-- A row of marks is made if a word can count them. -/
theorem rowOf_ok_iff {count : Int} : (∃ row, rowOf count = .ok row) ↔ fitsWord count = true := by
  unfold rowOf
  by_cases h : fitsWord count = true
  · rw [if_pos h]
    exact ⟨fun _ => h, fun _ => ⟨_, rfl⟩⟩
  · rw [if_neg h]
    exact ⟨fun ⟨row, hrow⟩ => (nomatch hrow), fun hfits => absurd hfits h⟩

/-- **Marks under a text** can be set if there is no column to set them under, or else if there are
columns and a word can count the marks. Marks that begin in front of what is shown are left out, and
nobody counts them. -/
theorem marks_ok_iff {text : String} :
    (∃ s, p.marks text = .ok s) ↔ p.column = .null ∨ p.HasColumns
      ∧ ∀ first last, p.span = .ok (first, last) → indentOf text < first →
        fitsWord (last - first) = true := by
  unfold marks
  split
  · rename_i hnull
    exact ⟨fun _ => .inl hnull, fun _ => ⟨_, rfl⟩⟩
  · rename_i hcolumn
    constructor
    · rintro ⟨s, h⟩
      obtain ⟨⟨first, last⟩, hspan, h⟩ := bind_ok h
      refine .inr ⟨span_ok_iff.mp ⟨_, hspan⟩, ?_⟩
      intro first' last' hspan' hindent
      cases hspan.symm.trans hspan'
      -- the marks begin behind the indentation, so there is a row and somebody counts it
      have hfront : ¬ first - 1 - (indentOf text : Int) < 0 := by omega
      simp only [if_neg hfront] at h
      obtain ⟨row, hrow, -⟩ := bind_ok h
      exact rowOf_ok_iff.mp ⟨row, hrow⟩
    · rintro (hnull | ⟨hcolumns, hrow⟩)
      · exact absurd hnull hcolumn
      · obtain ⟨⟨first, last⟩, hspan⟩ := span_ok_iff.mpr hcolumns
        simp only [hspan, bind, Except.bind]
        by_cases hfront : first - 1 - (indentOf text : Int) < 0
        · rw [if_pos hfront]
          exact ⟨_, rfl⟩
        · rw [if_neg hfront]
          obtain ⟨row, hok⟩ := rowOf_ok_iff.mpr (hrow first last hspan (by omega))
          rw [hok]
          exact ⟨_, rfl⟩

/-! ### All of it -/

/-- **A passage that can be shown.** -/
structure Showable (p : Passage) : Prop where
  file : p.file.Writable
  line : p.line.Writable
  endLine : p.endLine.Writable
  text : p.text = .null ∨ ∃ s, p.text = .text s
  columns : p.text = .null ∨ p.column = .null ∨ p.HasColumns
  row : ∀ text first last, p.text = .text text → p.span = .ok (first, last) →
    indentOf text < first → fitsWord (last - first) = true

/-- The check that is made first is about the two lines. -/
theorem take_ok_iff : p.take = .ok () ↔ p.line.Writable ∧ p.endLine.Writable := by
  rw [← Fault.exists_written_iff, ← Fault.exists_written_iff]
  constructor
  · intro h
    obtain ⟨line, hline, h⟩ := bind_ok h
    obtain ⟨endLine, hend, -⟩ := bind_ok h
    exact ⟨⟨line, hline⟩, endLine, hend⟩
  · rintro ⟨⟨line, hline⟩, endLine, hend⟩
    rw [take, hline, hend]
    rfl

/-- The file in the heading is written, or a word in its place. -/
theorem headingFile_ok_iff : (∃ s, p.headingFile = .ok s) ↔ p.file.Writable := by
  unfold headingFile
  -- a file that is taken for nothing has a word in its place, and it could have been written as
  -- well
  by_cases hempty : p.file.isEmpty = true
  · rw [if_pos hempty]
    exact ⟨fun _ => Datum.writable_of_isEmpty hempty, fun _ => ⟨_, rfl⟩⟩
  · rw [if_neg hempty]
    exact Fault.exists_written_iff

/-- What is shown of the text goes wrong if it is no text, or if the marks under it do. -/
theorem excerpt_ok_iff :
    (∃ s, p.excerpt = .ok s) ↔ p.text = .null ∨ ∃ text, p.text = .text text
      ∧ ∃ s, p.marks text = .ok s := by
  unfold excerpt
  cases htext : p.text with
  | null => exact ⟨fun _ => .inl rfl, fun _ => ⟨_, rfl⟩⟩
  | text text =>
    constructor
    · rintro ⟨s, h⟩
      obtain ⟨marks, hmarks, -⟩ := bind_ok h
      exact .inr ⟨text, rfl, marks, hmarks⟩
    · rintro (h | ⟨text', h, s, hmarks⟩)
      · cases h
      · cases h
        dsimp only
        rw [hmarks]
        exact ⟨_, rfl⟩
  | _ => exact ⟨fun ⟨s, h⟩ => (nomatch h), fun h => by rcases h with h | ⟨text, h, -⟩ <;> cases h⟩

/-- What names the file: the heading if there is a line, and else what follows in parentheses. -/
theorem named_ok_iff (hline : p.line.Writable) :
    ((∃ s, p.headlessSuffix = .ok s) ∧ ∃ s, p.heading = .ok s) ↔ p.file.Writable := by
  obtain ⟨line, hline⟩ := Fault.exists_written_iff.mpr hline
  unfold headlessSuffix heading
  -- the file is named at one place only, and which one it is depends on the line
  cases hhas : p.hasLine with
  | true =>
    rw [if_pos rfl, hline, ← headingFile_ok_iff]
    constructor
    · rintro ⟨-, s, h⟩
      obtain ⟨file, hfile, -⟩ := bind_ok h
      exact ⟨file, hfile⟩
    · rintro ⟨file, hfile⟩
      rw [hfile]
      exact ⟨⟨_, rfl⟩, _, rfl⟩
  | false =>
    rw [if_neg Bool.false_ne_true]
    cases hfile : p.file with
    | null => exact ⟨fun _ => .null, fun _ => ⟨⟨_, rfl⟩, _, rfl⟩⟩
    | _ =>
      rw [← Fault.exists_written_iff]
      constructor
      · rintro ⟨⟨s, h⟩, -⟩
        obtain ⟨file, hfile, -⟩ := bind_ok h
        exact ⟨file, hfile⟩
      · rintro ⟨s, hs⟩
        dsimp only
        rw [hs]
        exact ⟨⟨_, rfl⟩, _, rfl⟩

/-- **Exactly the showable passages are shown**: nothing goes wrong with what is checked before,
with what is told in one line, and with what is told in lines of its own. -/
theorem showable_iff :
    p.Showable ↔ p.take = .ok () ∧ (∃ s, p.headlessSuffix = .ok s) ∧ ∃ s, p.lines = .ok s := by
  have hlines : (∃ s, p.lines = .ok s) ↔ (∃ s, p.heading = .ok s) ∧ ∃ s, p.excerpt = .ok s := by
    constructor
    · rintro ⟨s, h⟩
      obtain ⟨heading, hheading, h⟩ := bind_ok h
      obtain ⟨excerpt, hexcerpt, -⟩ := bind_ok h
      exact ⟨⟨heading, hheading⟩, excerpt, hexcerpt⟩
    · rintro ⟨⟨heading, hheading⟩, excerpt, hexcerpt⟩
      rw [lines, hheading, hexcerpt]
      exact ⟨_, rfl⟩
  rw [hlines, excerpt_ok_iff, take_ok_iff]
  simp only [marks_ok_iff]
  constructor
  · intro h
    have hnamed := (named_ok_iff h.line).mpr h.file
    refine ⟨⟨h.line, h.endLine⟩, hnamed.1, hnamed.2, ?_⟩
    rcases h.text with htext | ⟨text, htext⟩
    · exact .inl htext
    · refine .inr ⟨text, htext, ?_⟩
      rcases h.columns with hnull | hnull | hcolumns
      · cases htext.symm.trans hnull
      · exact .inl hnull
      · exact .inr ⟨hcolumns, fun first last => h.row text first last htext⟩
  · rintro ⟨⟨hline, hend⟩, hsuffix, hheading, hexcerpt⟩
    have hfile := (named_ok_iff hline).mp ⟨hsuffix, hheading⟩
    rcases hexcerpt with htext | ⟨text, htext, hmarks⟩
    · refine ⟨hfile, hline, hend, .inl htext, .inl htext, ?_⟩
      intro text first last hother
      cases htext.symm.trans hother
    · refine ⟨hfile, hline, hend, .inr ⟨text, htext⟩, .inr (hmarks.imp_right And.left), ?_⟩
      intro text' first last htext' hspan hindent
      cases htext.symm.trans htext'
      rcases hmarks with hnull | ⟨-, hrow⟩
      -- where there is no column there are no ends of marks, hence nothing to count
      · have hcolumn := (span_ok_iff.mp ⟨_, hspan⟩).column
        rw [hnull] at hcolumn
        cases hcolumn
      · exact hrow first last hspan hindent

end Passage
end CertChain
