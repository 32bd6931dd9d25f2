import CertChain.Bytes
import CertChain.Text.Quoted
import Mathlib.Tactic.SplitIfs

/-!
# Texts in one line

A text may be broken into lines at any of ten characters, the line feed being only the best
known. `OneLine` says that a text holds none of them.

A text in quotes is in one line, whatever it holds (`oneLine_quoted`): of the ten characters
none is printable, and what is not printable is written by its number.
-/

namespace CertChain

/-- The characters at which a text is broken into lines. -/
def lineEnds : List Char :=
  ['\n', '\x0b', '\x0c', '\r', '\x1c', '\x1d', '\x1e', '\x85', '\u2028', '\u2029']

/-- **Characters in one line.** -/
def InLine (cs : List Char) : Prop :=
  ∀ c ∈ cs, c ∉ lineEnds

/-- **A text in one line.** -/
def OneLine (text : String) : Prop :=
  InLine text.toList

instance (cs : List Char) : Decidable (InLine cs) :=
  decidable_of_iff (cs.all fun c => !lineEnds.contains c) (by simp [InLine])

instance (text : String) : Decidable (OneLine text) :=
  inferInstanceAs (Decidable (InLine text.toList))

/-! ### Putting texts together -/

theorem InLine.append {cs ds : List Char} (hcs : InLine cs) (hds : InLine ds) :
    InLine (cs ++ ds) := by
  intro c hc
  rcases List.mem_append.mp hc with hc | hc
  · exact hcs c hc
  · exact hds c hc

theorem inLine_flatMap {α : Type} {as : List α} {f : α → List Char} (h : ∀ a ∈ as, InLine (f a)) :
    InLine (as.flatMap f) := by
  intro c hc
  obtain ⟨a, ha, hc⟩ := List.mem_flatMap.mp hc
  exact h a ha c hc

/-- Characters that are joined are in one line if the separator is in one as well. -/
theorem inLine_intercalate {separator : List Char} (hseparator : InLine separator)
    {texts : List (List Char)} (h : ∀ cs ∈ texts, InLine cs) :
    InLine (separator.intercalate texts) := by
  induction texts with
  | nil => exact List.forall_mem_nil _
  | cons cs rest ih =>
    obtain ⟨hcs, hrest⟩ := List.forall_mem_cons.mp h
    -- the separator stands between two texts only, so the last one has none behind it
    by_cases hempty : rest = []
    · rw [hempty, List.intercalate_singleton]
      exact hcs
    · rw [List.intercalate_cons_of_ne_nil hempty]
      exact (hcs.append hseparator).append (ih hrest)

theorem OneLine.append {s t : String} (hs : OneLine s) (ht : OneLine t) : OneLine (s ++ t) := by
  rw [OneLine, String.toList_append]
  exact InLine.append hs ht

/-- A text is in one line if its characters are. -/
theorem oneLine_ofList {cs : List Char} (h : InLine cs) : OneLine (String.ofList cs) := by
  rw [OneLine, String.toList_ofList]
  exact h

theorem oneLine_intercalate {separator : String} (hseparator : OneLine separator)
    {texts : List String} (h : ∀ t ∈ texts, OneLine t) :
    OneLine (separator.intercalate texts) := by
  rw [OneLine, String.toList_intercalate]
  apply inLine_intercalate hseparator
  intro cs hcs
  obtain ⟨t, ht, rfl⟩ := List.mem_map.mp hcs
  exact h t ht

/-! ### Numbers -/

/-- A number in digits is in one line. -/
theorem oneLine_nat (n : Nat) : OneLine (toString n) := by
  intro c hc hend
  have hdigit : c.isDigit = true := by
    rw [show toString n = n.repr from rfl, Nat.toList_repr] at hc
    exact Nat.isDigit_of_mem_toDigits (by decide) (by decide) hc
  -- the other way round: the ten characters are tried, and none of them is a digit
  have hall : (lineEnds.all fun e => !e.isDigit) = true := by decide
  have hnone := List.all_eq_true.mp hall c hend
  rw [hdigit] at hnone
  cases hnone

/-- A hexadecimal digit breaks no line. There are sixteen to try. -/
theorem not_lineEnd_digitChar (n : Nat) : Nat.digitChar (n % 16) ∉ lineEnds := by
  have hall : ∀ m < 16, Nat.digitChar m ∉ lineEnds := by decide
  exact hall _ (Nat.mod_lt n (by decide))

/-- Octets in hexadecimal are in one line. -/
theorem oneLine_hex (bytes : Bytes) : OneLine (Bytes.hex bytes) := by
  have hdigit : ∀ n < 16, Bytes.hexDigit n ∉ lineEnds := by decide
  refine oneLine_ofList (inLine_flatMap fun b _ => ?_)
  have hlow : b.toNat % 16 < 16 := Nat.mod_lt _ (by decide)
  have hhigh : b.toNat / 16 < 16 := Nat.div_lt_of_lt_mul b.toNat_lt
  exact List.forall_mem_cons.mpr ⟨hdigit _ hhigh, List.forall_mem_singleton.mpr (hdigit _ hlow)⟩

/-! ### Quoted texts -/

namespace Quoted

/-- What can be printed breaks no line. The ten characters are looked up in the table. -/
theorem not_lineEnd_of_isPrintable {c : Char} (h : isPrintable c = true) : c ∉ lineEnds := by
  intro hend
  have hall : (lineEnds.all fun e => !isPrintable e) = true := by decide +kernel
  have hnone := List.all_eq_true.mp hall c hend
  rw [h] at hnone
  cases hnone

/-- A character that is written by its number is in one line, which is what the numbers are for. -/
theorem inLine_numbered (c : Char) : InLine (numbered c) := by
  have hdigits : ∀ width, InLine (hexDigits width c.toNat) := by
    intro width d hd
    obtain ⟨i, -, rfl⟩ := List.mem_map.mp hd
    exact not_lineEnd_digitChar _
  have hhead : ∀ {letter : Char} {width : Nat}, letter ∉ lineEnds →
      InLine ('\\' :: letter :: hexDigits width c.toNat) := by
    intro letter width hletter
    exact List.forall_mem_cons.mpr ⟨by decide, List.forall_mem_cons.mpr ⟨hletter, hdigits width⟩⟩
  -- two, four or eight digits, behind a letter that tells how many
  rw [numbered]
  split_ifs
  · exact hhead (by decide)
  · exact hhead (by decide)
  · exact hhead (by decide)

/-- A character between quotes is in one line, if the quote is. -/
theorem inLine_escape {quote : Char} (hquote : quote ∉ lineEnds) (c : Char) :
    InLine (escape quote c) := by
  rw [escape]
  split_ifs with hescaped htab hfeed hreturn hprintable
  · -- a backslash, and a quote or another one
    refine List.forall_mem_cons.mpr ⟨by decide, List.forall_mem_singleton.mpr ?_⟩
    rcases hescaped with rfl | rfl
    · exact hquote
    · decide
  · decide
  · decide
  · decide
  · exact List.forall_mem_singleton.mpr (not_lineEnd_of_isPrintable hprintable)
  · exact inLine_numbered c

end Quoted

/-- **A text in quotes is in one line**, whatever it holds. -/
theorem oneLine_quoted (text : String) : OneLine (quoted text) := by
  -- the quote is one of two, and the characters between the two quotes are escaped
  have hquote : Quoted.quoteFor text.toList ∉ lineEnds := by
    rw [Quoted.quoteFor]
    split_ifs
    · decide
    · decide
  apply oneLine_ofList
  refine InLine.append (List.forall_mem_cons.mpr ⟨hquote, inLine_flatMap fun c _ => ?_⟩)
    (List.forall_mem_singleton.mpr hquote)
  exact Quoted.inLine_escape hquote c

end CertChain
