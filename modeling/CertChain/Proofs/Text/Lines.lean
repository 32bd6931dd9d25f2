import CertChain.Proofs.Text.OneLine
import CertChain.Proofs.Text.Utf

/-!
# Texts that consist of lines

What a program prints for people is read line by line. A text consists of certain lines
(`ConsistsOf`) if it is these lines one after the other, each with a line feed at its end, and if
there is no other line feed in it. The second half is what can go wrong: a text that has been put
together from lines need not consist of them, or of as many.

How many lines there are is found by counting. A text that was put together from some lines has
one line feed for each of them and those that the lines hold themselves
(`count_textOfLines`), so it consists of that many lines only if they hold none
(`consistsOf_length_iff`).
-/

namespace CertChain

/-- **A text that is not broken**: there is no line feed in it. -/
def Unbroken (text : String) : Prop :=
  '\n' ∉ text.toList

instance (text : String) : Decidable (Unbroken text) :=
  inferInstanceAs (Decidable (¬ _))

/-- Lines as one text, each of them with its end. -/
def textOfLines (lines : List String) : String :=
  "".intercalate (lines.map fun line => line ++ "\n")

/-- **A text consists of lines** if it is these lines and they are not broken. -/
structure ConsistsOf (text : String) (lines : List String) : Prop where
  text_eq : text = textOfLines lines
  unbroken : ∀ line ∈ lines, Unbroken line

/-! ### Texts without line feeds -/

/-- A text in one line has no line feed, which is one of the ten characters. -/
theorem OneLine.unbroken {text : String} (h : OneLine text) : Unbroken text := by
  intro hfeed
  exact h '\n' hfeed (by decide)

/-- Two texts are unbroken together exactly if each of them is. -/
theorem unbroken_append {s t : String} : Unbroken (s ++ t) ↔ Unbroken s ∧ Unbroken t := by
  rw [Unbroken, String.toList_append, List.mem_append, not_or]
  rfl

/-- A character that is not in the separator comes from one of the texts. -/
theorem not_mem_intercalate {c : Char} {separator : List Char} (hseparator : c ∉ separator)
    {texts : List (List Char)} :
    c ∉ separator.intercalate texts ↔ ∀ cs ∈ texts, c ∉ cs := by
  induction texts with
  | nil => exact ⟨fun _ => List.forall_mem_nil _, fun _ => List.not_mem_nil⟩
  | cons cs rest ih =>
    rw [List.forall_mem_cons]
    by_cases hempty : rest = []
    · -- a single text has no separator behind it
      rw [hempty, List.intercalate_singleton]
      exact ⟨fun h => ⟨h, List.forall_mem_nil _⟩, fun h => h.1⟩
    · rw [List.intercalate_cons_of_ne_nil hempty, List.mem_append, List.mem_append, not_or, not_or,
        ih]
      exact ⟨fun h => ⟨h.1.1, h.2⟩, fun h => ⟨⟨h.1, hseparator⟩, h.2⟩⟩

/-- A separator that is no line break brings none. -/
theorem unbroken_intercalate {separator : String} (hseparator : Unbroken separator)
    {texts : List String} :
    Unbroken (separator.intercalate texts) ↔ ∀ t ∈ texts, Unbroken t := by
  rw [Unbroken, String.toList_intercalate, not_mem_intercalate hseparator]
  exact List.forall_mem_map

/-! ### Counting lines -/

/-- The first line stands in front, with its end. -/
theorem textOfLines_cons (line : String) (rest : List String) :
    textOfLines (line :: rest) = line ++ "\n" ++ textOfLines rest := by
  -- without other lines there is no separator, which is empty anyway
  by_cases hempty : rest = []
  · rw [hempty]
    exact String.intercalate_singleton.trans String.append_empty.symm
  · have hne : rest.map (fun line => line ++ "\n") ≠ [] := by simpa using hempty
    rw [textOfLines, List.map_cons, String.intercalate_cons_of_ne_nil hne, String.append_empty]
    rfl

/-- The line feeds in lines. -/
def feedsIn (lines : List String) : Nat :=
  (lines.flatMap String.toList).count '\n'

/-- Lines without line feeds are unbroken. -/
theorem feedsIn_eq_zero_iff {lines : List String} :
    feedsIn lines = 0 ↔ ∀ line ∈ lines, Unbroken line := by
  rw [feedsIn, List.count_eq_zero]
  simp [Unbroken, List.mem_flatMap]

/-- Every line ends with a line feed, and may hold others. -/
theorem count_textOfLines (lines : List String) :
    (textOfLines lines).toList.count '\n' = lines.length + feedsIn lines := by
  -- on the lines: the end of each is one line feed, besides those inside it
  induction lines with
  | nil => rfl
  | cons line rest ih =>
    have hends : "\n".toList.count '\n' = 1 := rfl
    have hfeeds : feedsIn (line :: rest) = line.toList.count '\n' + feedsIn rest := by
      rw [feedsIn, List.flatMap_cons, List.count_append, feedsIn]
    calc (textOfLines (line :: rest)).toList.count '\n'
        = line.toList.count '\n' + 1 + (textOfLines rest).toList.count '\n' := by
          rw [textOfLines_cons, String.toList_append, String.toList_append, List.count_append,
            List.count_append, hends]
      _ = (line :: rest).length + feedsIn (line :: rest) := by
          rw [ih, hfeeds, List.length_cons]
          omega

/-- **A text that was put together from lines** consists of as many lines as these only if none
of them is broken. -/
theorem consistsOf_length_iff {lines : List String} :
    (∃ others, others.length = lines.length ∧ ConsistsOf (textOfLines lines) others)
      ↔ ∀ line ∈ lines, Unbroken line := by
  constructor
  · rintro ⟨others, hlength, htext, hothers⟩
    -- the line feeds are counted in both ways; the other lines hold none, and are as many
    have hcount : lines.length + feedsIn lines = others.length + feedsIn others := by
      rw [← count_textOfLines, ← count_textOfLines, htext]
    rw [feedsIn_eq_zero_iff.mpr hothers] at hcount
    exact feedsIn_eq_zero_iff.mp (by omega)
  · intro h
    exact ⟨lines, rfl, rfl, h⟩

end CertChain
