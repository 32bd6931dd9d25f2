import CertChain.Proofs.Outcome
import CertChain.Proofs.Settings.DotEnv

/-!
# Settings files that refer to nothing

A reference opens with a dollar sign and a brace. When this is nowhere in the text of a settings
file, the values that the file binds refer to nothing (`DotEnv.plain_bindings`).

Values are pieces of the text, and so is all that the scanner still has in front of it. What else
is done to a text is that line ends are made alike and escapes are replaced. Neither makes a dollar
sign or a brace, nor brings two characters together that stood apart.
-/

namespace CertChain
namespace DotEnv

/-- The opening of a reference. -/
def opening : List Char := ['$', '{']

/-- A reference **opens** in a text. -/
def Opens (cs : List Char) : Prop :=
  opening <:+: cs

variable {cs rest : List Char} {c : Char}

/-- What opens in a part of a text opens in the text. -/
theorem Opens.mono {part : List Char} (h : Opens part) (hpart : part <:+: cs) : Opens cs :=
  List.IsInfix.trans h hpart

/-- Nothing opens where there is no dollar sign. -/
theorem not_opens_of_not_mem (h : '$' ∉ cs) : ¬ Opens cs :=
  fun hopens => h (hopens.mem List.mem_cons_self)

/-- A reference opens at the front of a text, or behind its first character. -/
theorem opens_cons : Opens (c :: cs) ↔ (c = '$' ∧ cs.head? = some '{') ∨ Opens cs := by
  unfold Opens opening
  rw [List.infix_cons_iff, List.cons_prefix_cons]
  refine or_congr_left (and_congr eq_comm ?_)
  cases cs with
  | nil => simp
  | cons d rest => simp [eq_comm]

/-- A text in which nothing opens has no reference. -/
theorem noReference_of_not_opens {text : String} (h : ¬ Opens text.toList) : NoReference text := by
  intro before behind hsplit
  refine absurd ⟨before, behind, ?_⟩ h
  rw [hsplit, opening, List.append_assoc]
  rfl

/-! ### Texts that are changed -/

/-- A text that **opens no more** than another one, not even with a dollar sign in front. -/
structure Tamer (ds cs : List Char) : Prop where
  head : ds.head? = some '{' → cs.head? = some '{'
  opens : Opens ds → Opens cs

variable {ds : List Char}

theorem Tamer.refl (cs : List Char) : Tamer cs cs :=
  ⟨id, id⟩

/-- The same character in front. -/
theorem Tamer.cons (c : Char) (h : Tamer ds cs) : Tamer (c :: ds) (c :: cs) := by
  refine ⟨id, fun hopens => ?_⟩
  rcases opens_cons.mp hopens with ⟨hdollar, hhead⟩ | hopens
  · exact opens_cons.mpr (.inl ⟨hdollar, h.head hhead⟩)
  · exact opens_cons.mpr (.inr (h.opens hopens))

/-- A character that is neither a dollar sign nor a brace, in the place of others. -/
theorem tamer_cons_append (hc : c ≠ '$' ∧ c ≠ '{') (h : Tamer ds cs) (gone : List Char) :
    Tamer (c :: ds) (gone ++ cs) := by
  -- in front of what is replaced there can be no dollar sign that waits for a brace
  constructor
  · intro hhead
    exact absurd (Option.some.inj hhead) hc.2
  · intro hopens
    rcases opens_cons.mp hopens with ⟨hdollar, -⟩ | hopens
    · exact absurd hdollar hc.1
    · exact (h.opens hopens).mono (List.suffix_append gone cs).isInfix

/-- Escapes that neither make a dollar sign nor a brace. -/
def Harmless (escapes : List (Char × Char)) : Prop :=
  ∀ entry ∈ escapes, entry.2 ≠ '$' ∧ entry.2 ≠ '{'

/-- No escape stands for a dollar sign or a brace, in neither kind of quotes. -/
theorem harmless_escapes : Harmless singleEscapes ∧ Harmless doubleEscapes := by
  unfold Harmless
  decide

/-- What a harmless table gives for a character is neither a dollar sign nor a brace. -/
theorem Harmless.of_lookup {escapes : List (Char × Char)} (h : Harmless escapes) {d e : Char}
    (hlookup : escapes.lookup d = some e) : e ≠ '$' ∧ e ≠ '{' :=
  h (d, e) (mem_of_lookup hlookup)

/-- A text opens no more when its escapes are replaced. -/
theorem tamer_unescape {escapes : List (Char × Char)} (hescapes : Harmless escapes)
    (cs : List Char) : Tamer (unescape escapes cs) cs := by
  -- a character is either kept, or stands for an escape and cannot be part of an opening
  fun_induction unescape escapes cs with
  | case1 => exact .refl []
  | case2 c => exact .refl [c]
  | case3 c d rest e hescape ih =>
    have he : e ≠ '$' ∧ e ≠ '{' := by
      split at hescape
      · exact hescapes.of_lookup hescape
      · cases hescape
    exact tamer_cons_append he ih [c, d]
  | case4 c d rest hescape ih => exact ih.cons c

/-- A text opens no more when its line ends are made alike. -/
theorem tamer_withLineFeeds (cs : List Char) : Tamer (withLineFeeds cs) cs := by
  have hfeed : '\n' ≠ '$' ∧ '\n' ≠ '{' := by decide
  -- a line feed comes in the place of another line end; the other characters are kept
  fun_induction withLineFeeds cs with
  | case1 => exact .refl []
  | case2 => exact tamer_cons_append hfeed (.refl []) ['\r']
  | case3 rest ih => exact tamer_cons_append hfeed ih ['\r', '\n']
  | case4 d rest hd ih => exact tamer_cons_append hfeed ih ['\r']
  | case5 c d rest hc ih => exact ih.cons c
  | case6 c hc => exact .refl [c]

/-! ### Texts that are cut -/

/-- A value in quotes is a piece of the text, and what is left is its end. -/
theorem closeQuote_cuts {quote : Char} {inside value behind : List Char}
    (h : closeQuote quote inside = some (value, behind)) :
    value <+: inside ∧ behind <:+ inside := by
  -- on the cases of the search, so that the escaped quote and its fall-back are told apart
  fun_induction closeQuote quote inside generalizing value behind with
  | case1 => cases h
  | case2 =>
    cases h
    exact ⟨List.nil_prefix, List.nil_suffix⟩
  | case3 c hc => cases h
  | case4 c d rest hquoted inside' behind' hrest ih =>
    cases h
    obtain ⟨hvalue, hbehind⟩ := ih hrest
    exact ⟨List.cons_prefix_cons.mpr ⟨rfl, List.cons_prefix_cons.mpr ⟨rfl, hvalue⟩⟩,
      hbehind.trans (List.suffix_append [c, d] rest)⟩
  | case5 c d rest hquoted hrest ih =>
    cases h
    exact ⟨List.prefix_append [c] (d :: rest), List.suffix_append [c, d] rest⟩
  | case6 d rest hquoted =>
    cases h
    exact ⟨List.nil_prefix, List.suffix_cons quote (d :: rest)⟩
  | case7 c d rest hquoted hc ih =>
    obtain ⟨⟨value', behind'⟩, hrest, heq⟩ := Option.map_eq_some_iff.mp h
    cases heq
    obtain ⟨hvalue, hbehind⟩ := ih hrest
    exact ⟨List.cons_prefix_cons.mpr ⟨rfl, hvalue⟩,
      hbehind.trans (List.suffix_cons c (d :: rest))⟩

/-- A value without its comment is a beginning of it. -/
theorem cutComment_cuts (cs : List Char) : cutComment cs <+: cs := by
  fun_induction cutComment cs with
  | case1 => exact List.prefix_rfl
  | case2 c rest hcomment => exact List.nil_prefix
  | case3 c rest hcomment ih => exact List.cons_prefix_cons.mpr ⟨rfl, ih⟩

/-- A text without some characters at its end is a beginning of it. -/
theorem dropEndWhile_cuts (p : Char → Bool) (cs : List Char) : dropEndWhile p cs <+: cs := by
  unfold dropEndWhile
  have hsuffix : cs.reverse.dropWhile p <:+ cs.reverse := List.dropWhile_suffix p
  simpa using List.reverse_prefix.mpr hsuffix

/-- What is left when something is taken off the front. -/
theorem not_opens_of_suffix (h : ¬ Opens cs) (hrest : rest <:+ cs) : ¬ Opens rest :=
  fun hopens => h (hopens.mono hrest.isInfix)

theorem not_opens_dropWhile (h : ¬ Opens cs) (p : Char → Bool) : ¬ Opens (cs.dropWhile p) :=
  not_opens_of_suffix h (List.dropWhile_suffix p)

/-! ### The scanner -/

/-- **A scanner opens nothing**: when nothing opens in front of it, nothing opens in what it gives
and in what it leaves, and the same where it stops. -/
def Keeps {α : Type} (scanner : Scanner α) (good : α → Prop) : Prop :=
  ∀ cs, ¬ Opens cs → match scanner.run cs with
    | .ok (a, rest) => good a ∧ ¬ Opens rest
    | .error stopped => ¬ Opens stopped

namespace Keeps

variable {α β : Type} {scanner : Scanner α} {good : α → Prop} {more : α → Scanner β}
  {fine : β → Prop}

theorem bind (h : Keeps scanner good) (hmore : ∀ a, good a → Keeps (more a) fine) :
    Keeps (scanner >>= more) fine := by
  intro cs hcs
  -- where the first scanner stops so do both, and behind it the second one sees what is left
  have hfirst := h cs hcs
  rw [StateT.run_bind]
  cases hrun : scanner.run cs with
  | error stopped =>
    rw [hrun] at hfirst
    exact hfirst
  | ok result =>
    obtain ⟨a, rest⟩ := result
    rw [hrun] at hfirst
    exact hmore a hfirst.1 rest hfirst.2

theorem pure {a : α} (h : good a) : Keeps (Pure.pure a) good :=
  fun _ hcs => ⟨h, hcs⟩

theorem map {f : α → β} (h : Keeps scanner good) (hf : ∀ a, good a → fine (f a)) :
    Keeps (f <$> scanner) fine := by
  rw [map_eq_pure_bind]
  exact h.bind fun a ha => .pure (hf a ha)

theorem get : Keeps get fun cs => ¬ Opens cs :=
  fun _ hcs => ⟨hcs, hcs⟩

theorem set (h : ¬ Opens cs) : Keeps (set cs) fun _ => True :=
  fun _ _ => ⟨trivial, h⟩

theorem throw (h : ¬ Opens cs) : Keeps (throw cs : Scanner α) good :=
  fun _ _ => h

/-- Something is taken off the front. -/
theorem modify {f : List Char → List Char} (h : ∀ cs, f cs <:+ cs) :
    Keeps (modify f) fun _ => True :=
  fun cs hcs => ⟨trivial, not_opens_of_suffix hcs (h cs)⟩

end Keeps

/-- Blanks are taken off the front. -/
theorem keeps_skipInline : Keeps skipInline fun _ => True :=
  .modify fun _ => List.dropWhile_suffix isInlineBlank

/-- The word in front of a name is taken off together with the blanks behind it, or is none. -/
theorem keeps_skipExport : Keeps skipExport fun _ => True := by
  refine .modify fun cs => ?_
  dsimp only
  split
  · exact (List.dropWhile_suffix isInlineBlank).trans (List.drop_suffix _ cs)
  · exact List.suffix_rfl

/-- A comment is taken off up to the end of its line. -/
theorem keeps_skipComment : Keeps skipComment fun _ => True := by
  refine .modify fun cs => ?_
  dsimp only
  split
  · exact (List.dropWhile_suffix _).trans (List.dropWhile_suffix isInlineBlank)
  · exact List.suffix_rfl

/-- A name is taken off the front, in quotes or without. Nothing is asked of the name itself. -/
theorem keeps_scanName : Keeps scanName fun _ => True := by
  refine Keeps.get.bind fun cs hcs => ?_
  split
  -- a comment has no name and is left to the end of the line
  · exact .pure trivial
  · rename_i rest
    split
    · rename_i c name d behind hname hbehind
      refine (Keeps.set ?_).bind fun _ _ => .pure trivial
      have hdrop : ¬ Opens (rest.dropWhile (· ≠ '\'')) :=
        not_opens_dropWhile (not_opens_of_suffix hcs (List.suffix_cons _ rest)) _
      rw [hbehind] at hdrop
      exact not_opens_of_suffix hdrop (List.suffix_cons d behind)
    · exact Keeps.get.bind fun _ h => .throw h
  · dsimp only
    split
    · exact (Keeps.throw hcs).bind fun _ (h : False) => h.elim
    · exact (Keeps.set (not_opens_dropWhile hcs _)).bind fun _ _ => .pure trivial

/-- A value that opens nothing. -/
def Closed (value : String) : Prop :=
  ¬ Opens value.toList

/-- A value in quotes opens nothing, whether its escapes are replaced or not. -/
theorem keeps_scanQuoted {quote : Char} {escapes : List (Char × Char)} {inside : List Char}
    (hescapes : Harmless escapes) (hinside : ¬ Opens inside) :
    Keeps (scanQuoted quote escapes inside) Closed := by
  unfold scanQuoted
  split
  · exact Keeps.get.bind fun _ h => .throw h
  · rename_i value behind hclose
    obtain ⟨hvalue, hbehind⟩ := closeQuote_cuts hclose
    refine (Keeps.set (not_opens_of_suffix hinside hbehind)).bind fun _ _ => .pure ?_
    intro hopens
    rw [String.toList_ofList] at hopens
    exact hinside (((tamer_unescape hescapes value).opens hopens).mono hvalue.isInfix)

/-- A value opens nothing: it stands in quotes of either kind, or is the rest of the line. -/
theorem keeps_scanValue : Keeps scanValue Closed := by
  refine Keeps.get.bind fun cs hcs => ?_
  -- single quotes, double quotes, or none
  split
  · rename_i rest
    exact keeps_scanQuoted harmless_escapes.1 (not_opens_of_suffix hcs (List.suffix_cons _ rest))
  · rename_i rest
    exact keeps_scanQuoted harmless_escapes.2 (not_opens_of_suffix hcs (List.suffix_cons _ rest))
  · refine (Keeps.set (not_opens_dropWhile hcs _)).bind fun _ _ => .pure ?_
    intro hopens
    rw [String.toList_ofList] at hopens
    have hline : cs.takeWhile (· ≠ '\n') <+: cs := List.takeWhile_prefix _
    have hcut := (dropEndWhile_cuts isBlank _).trans ((cutComment_cuts _).trans hline)
    exact hcs (hopens.mono hcut.isInfix)

/-- The end of a line is taken off, and whatever else stands there stops the scanner. -/
theorem keeps_endLine : Keeps endLine fun _ => True := by
  refine Keeps.get.bind fun cs hcs => ?_
  have hrest := not_opens_dropWhile hcs isInlineBlank
  split
  · exact .set (by simp [Opens, opening])
  · rename_i rest hfeed
    rw [hfeed] at hrest
    exact .set (not_opens_of_suffix hrest (List.suffix_cons _ rest))
  · exact .throw hcs

/-- **A line opens nothing** when nothing opens in the text in front of it. -/
theorem keeps_scanLine :
    Keeps scanLine fun b => ∀ binding ∈ b, ∀ value ∈ binding.value, Closed value := by
  refine keeps_skipExport.bind fun _ _ => keeps_scanName.bind fun name _ =>
    keeps_skipInline.bind fun _ _ => ?_
  -- the rest of the line is the same with a value and without one
  have hbehind : ∀ value : Option String, (∀ text ∈ value, Closed text) →
      Keeps (do
        skipComment
        endLine
        return name.map fun name => ⟨name, value⟩ : Scanner (Option Binding))
        fun b => ∀ binding ∈ b, ∀ value ∈ binding.value, Closed value := by
    intro value hvalue
    refine keeps_skipComment.bind fun _ _ => keeps_endLine.bind fun _ _ => .pure ?_
    intro binding hbinding
    obtain ⟨-, -, rfl⟩ := Option.map_eq_some_iff.mp hbinding
    exact hvalue
  refine Keeps.get.bind fun cs hcs => ?_
  split
  · rename_i rest
    have hrest := not_opens_of_suffix hcs (List.suffix_cons _ rest)
    have hvalue : Keeps (some <$> scanValue) fun value => ∀ text ∈ value, Closed text :=
      keeps_scanValue.map fun value hvalue text htext => Option.some.inj htext ▸ hvalue
    exact (Keeps.set (not_opens_dropWhile hrest _)).bind fun _ _ => hvalue.bind hbehind
  · exact (Keeps.pure nofun).bind hbehind

/-! ### The whole file -/

theorem plain_nil : Plain [] :=
  fun _ hb => absurd hb List.not_mem_nil

/-- What a line binds, and what is left behind it. -/
theorem plain_line {line rest : List Char} {b : Option Binding} (h : ¬ Opens line)
    (hline : (match scanLine.run line with
      | .ok (binding, rest) => (binding, rest)
      | .error stopped => (none, nextLine stopped)) = (b, rest)) :
    Plain b.toList ∧ ¬ Opens rest := by
  have hkeeps := keeps_scanLine line h
  split at hline
  · rename_i binding behind hrun
    rw [hrun] at hkeeps
    obtain ⟨rfl, rfl⟩ := Prod.mk.inj hline
    refine ⟨fun entry hentry text htext => ?_, hkeeps.2⟩
    exact noReference_of_not_opens (hkeeps.1 entry (Option.mem_toList.mp hentry) text htext)
  · rename_i stopped hrun
    rw [hrun] at hkeeps
    obtain ⟨rfl, rfl⟩ := Prod.mk.inj hline
    refine ⟨plain_nil, ?_⟩
    exact not_opens_of_suffix (not_opens_dropWhile hkeeps (· ≠ '\n')) (List.drop_suffix 1 _)

/-- From line to line the text in front of the scanner gets shorter and still opens nothing. -/
theorem plain_bindingsFrom {cs : List Char} (h : ¬ Opens cs) : Plain (bindingsFrom cs) := by
  -- the blanks in front go first, and a line that leaves nothing shorter ends the file
  fun_induction bindingsFrom cs with
  | case1 => exact plain_nil
  | case2 cs line hfull b rest hline hless ih =>
    obtain ⟨hplain, hrest⟩ := plain_line (not_opens_dropWhile h isBlank) hline
    intro entry hentry
    rcases List.mem_append.mp hentry with hentry | hentry
    · exact hplain entry hentry
    · exact ih hrest entry hentry
  | case3 cs line hfull b rest hline hless =>
    exact (plain_line (not_opens_dropWhile h isBlank) hline).1

/-- **A text in which nothing opens has plain bindings.** -/
theorem plain_bindings {text : String} (h : ¬ Opens text.toList) : Plain (bindings text) := by
  -- a mark at the front of the text is dropped after the line ends are made alike
  have hlines : ¬ Opens (withLineFeeds text.toList) := mt (tamer_withLineFeeds _).opens h
  unfold bindings
  refine plain_bindingsFrom ?_
  split
  · exact not_opens_of_suffix hlines (List.tail_suffix _)
  · exact hlines

end DotEnv
end CertChain
