import CertChain.Proofs.CommandLine.Given

/-!
# Words behind the name of a command

What stands in front of a command's name is read without looking at what stands behind it, so
words can be put there and the command stays the same (`Grammar.readHead_resume`). The only thing
that can go wrong is that one of these words is no word at all: its role is looked for by the
grammar in front, too, and if it is the beginning of several options there that is the end.

Behind the name the words are read by the grammar of the command. Options that are put first go
in front of all that is found later (`Grammar.scan_after`), as they do in front of a command line.
-/

namespace CertChain
namespace CommandLine

namespace Grammar

variable {σ : Type} (g : Grammar σ)

/-! ### The same words in front -/

/-- Words that are taken for operands are the words themselves. -/
theorem map_text_operands (line : List String) :
    (line.map fun word => (⟨word, .operand⟩ : Word σ)).map Word.text = line :=
  List.map_map.trans (List.map_id line)

/-- The words of a line have its texts, in order. -/
theorem map_text_of_words {g : Grammar σ} {line : List String} {ws : List (Word σ)}
    (h : g.words line = .ok ws) : ws.map Word.text = line := by
  induction line generalizing ws with
  | nil =>
    cases h
    rfl
  | cons word rest ih =>
    rw [words] at h
    split at h
    · cases h
      rw [List.map_cons, map_text_operands]
    · obtain ⟨role, -, hmore⟩ := bind_ok h
      obtain ⟨others, hothers, hpure⟩ := bind_ok hmore
      cases hpure
      rw [List.map_cons, ih hothers]

/-- **Roles in front stay** when other words come behind, unless one of these has none. -/
theorem words_resume {g : Grammar σ} {front tail : List String} {ws : List (Word σ)}
    (h : g.words (front ++ tail) = .ok ws) (other : List String) :
    (∃ more, g.words (front ++ other) = .ok (ws.take front.length ++ more)
      ∧ more.map Word.text = other)
    ∨ (∃ more, g.words tail = .ok more) ∧ ∃ misuse, g.words other = .error misuse
      ∧ g.words (front ++ other) = .error misuse := by
  -- on the words in front, whose roles do not depend on those behind
  induction front generalizing ws with
  | nil =>
    rw [List.nil_append] at h
    cases hother : g.words other with
    | error misuse => exact .inr ⟨⟨ws, h⟩, misuse, rfl, hother⟩
    | ok more => exact .inl ⟨more, hother, map_text_of_words hother⟩
  | cons word front ih =>
    rw [List.cons_append, words] at h ⊢
    split at h
    · -- behind the separator every word has a role
      rename_i hbar
      cases h
      refine .inl ⟨other.map fun word => ⟨word, .operand⟩, ?_, map_text_operands other⟩
      rw [if_pos hbar, List.map_append, List.map_append, List.length_cons, List.take_succ_cons,
        List.take_left' (List.length_map _)]
      rfl
    · rename_i hbar
      obtain ⟨role, hrole, hmore⟩ := bind_ok h
      obtain ⟨others, hothers, hpure⟩ := bind_ok hmore
      cases hpure
      rw [if_neg hbar, hrole]
      rcases ih hothers with ⟨more, hwords, htext⟩ | ⟨htail, misuse, hother, hwords⟩
      · refine .inl ⟨more, ?_, htext⟩
        rw [hwords]
        rfl
      · refine .inr ⟨htail, misuse, hother, ?_⟩
        rw [hwords]
        rfl

/-- What comes behind the first one of a list does not matter to it. -/
theorem head?_append_cons {α : Type} (front : List α) (a : α) (rest other : List α) :
    (front ++ a :: rest).head? = (front ++ a :: other).head? := by
  cases front <;> rfl

/-- **The first operand ends the reading**, and what comes behind it does not matter. -/
theorem scanHead_resume {r r' : Reading σ} {ws : List (Word σ)} {name : String}
    {rest : List String} (h : g.scanHead r ws = .ok (r', name :: rest)) :
    ∃ front word tail, ws = front ++ word :: tail ∧ word.text = name
      ∧ tail.map Word.text = rest ∧ ∀ other, other ≠ [] →
        g.scanHead r (front ++ word :: other) = .ok (r', name :: other.map Word.text) := by
  -- on the cases of the reading in front, up to the first operand
  induction r, ws using scanHead.induct with
  | case1 r =>
    rw [scanHead] at h
    cases h
  | case2 r text rest ih =>
    rw [scanHead] at h
    obtain ⟨front, word, tail, rfl, hword, htail, hresume⟩ := ih h
    refine ⟨⟨text, .unknown⟩ :: front, word, tail, rfl, hword, htail, fun other hother => ?_⟩
    rw [List.cons_append, scanHead]
    exact hresume other hother
  | case3 r text rule isShort attached rest ih =>
    rw [scanHead] at h
    obtain ⟨⟨taken, usesNext⟩, htaken, hmore⟩ := bind_ok h
    obtain ⟨front, word, tail, hbehind, hword, htail, hresume⟩ := ih taken usesNext hmore
    -- the word behind the option is its value, or the one that is read next
    cases usesNext with
    | false =>
      obtain rfl : rest = front ++ word :: tail := hbehind
      refine ⟨⟨text, .option rule isShort attached⟩ :: front, word, tail, rfl, hword, htail,
        fun other hother => ?_⟩
      rw [List.cons_append, scanHead, ← head?_append_cons front word tail other, htaken]
      exact hresume other hother
    | true =>
      cases rest with
      | nil => exact absurd hbehind.symm (by simp [behind])
      | cons value rest =>
        obtain rfl : rest = front ++ word :: tail := hbehind
        refine ⟨⟨text, .option rule isShort attached⟩ :: value :: front, word, tail, rfl, hword,
          htail, fun other hother => ?_⟩
        rw [List.cons_append, scanHead]
        show (g.take r (some value) rule isShort attached >>= _) = _
        rw [show g.take r (some value) rule isShort attached = _ from htaken]
        exact hresume other hother
  | case4 r bar =>
    rw [scanHead] at h
    cases h
  | case5 r ws hnil hunknown hoption hseparator =>
    have hhead : g.scanHead r ws = .ok (r, ws.map Word.text) := by
      simp only [scanHead]
    rw [hhead] at h
    cases ws with
    | nil => exact absurd rfl hnil
    | cons word tail =>
      obtain ⟨rfl, rfl, rfl⟩ : r = r' ∧ word.text = name ∧ tail.map Word.text = rest := by
        simpa using h
      refine ⟨[], word, tail, rfl, rfl, rfl, fun other hother => ?_⟩
      obtain ⟨text, role⟩ := word
      cases role with
      | operand => exact g.scanHead_operand r text other
      | separator =>
        -- a separator would be left over if nothing came behind it
        cases other with
        | nil => exact absurd rfl hother
        | cons next others => simp [scanHead]
      | unknown => exact absurd rfl (hunknown text tail)
      | option rule isShort attached => exact absurd rfl (hoption text rule isShort attached tail)

/-- A line that is read up to a name has words, and a run over them that stops there. -/
theorem readHead_ok {line : List String} {r : Reading σ} {name : String} {rest : List String}
    (h : g.readHead line = .ok (r, name, rest)) :
    ∃ ws, g.words line = .ok ws ∧ g.scanHead .empty ws = .ok (r, name :: rest) := by
  obtain ⟨ws, hws, hmore⟩ := bind_ok h
  obtain ⟨⟨found, texts⟩, hscan, hlast⟩ := bind_ok hmore
  cases texts with
  | nil => cases hlast
  | cons first others =>
    cases hlast
    exact ⟨ws, mapError_ok hws, hscan⟩

/-- A command line that is read up to a name has it somewhere. -/
theorem exists_front {line : List String} {r : Reading σ} {name : String} {rest : List String}
    (h : g.readHead line = .ok (r, name, rest)) : ∃ front, line = front ++ name :: rest := by
  -- the words in front of the name come back as texts
  obtain ⟨ws, hws, hscan⟩ := g.readHead_ok h
  obtain ⟨front, word, tail, rfl, rfl, rfl, -⟩ := g.scanHead_resume hscan
  refine ⟨front.map Word.text, ?_⟩
  rw [← map_text_of_words hws, List.map_append, List.map_cons]

/-- **Other words behind a name** are handed on as they are, unless one of them is no word. -/
theorem readHead_resume {front rest : List String} {r : Reading σ} {name : String}
    (h : g.readHead (front ++ name :: rest) = .ok (r, name, rest)) {other : List String}
    (hother : other ≠ []) :
    g.readHead (front ++ name :: other) = .ok (r, name, other)
    ∨ (∃ more, g.words rest = .ok more) ∧ ∃ misuse, g.words other = .error misuse
      ∧ g.readHead (front ++ name :: other) = .error (g.stop misuse) := by
  obtain ⟨ws, hws, hscan⟩ := g.readHead_ok h
  obtain ⟨before, word, tail, rfl, hword, htail, hresume⟩ := g.scanHead_resume hscan
  -- the words in front of the name are as many as those whose roles are known
  have hlength : (front ++ [name]).length = (before ++ [word]).length := by
    have htotal := congrArg List.length (map_text_of_words hws)
    simp only [List.length_map, List.length_append, List.length_cons, ← htail] at htotal
    simp only [List.length_append, List.length_singleton]
    omega
  rw [List.append_cons] at hws
  rw [List.append_cons front name other]
  rcases words_resume hws other with ⟨more, hwords, htext⟩ | ⟨hrest, misuse, hmisuse, hwords⟩
  · have hmore : more ≠ [] := by
      rintro rfl
      exact hother htext.symm
    rw [List.append_cons before word tail, hlength, List.take_left,
      ← List.append_cons before word more] at hwords
    refine .inl ?_
    rw [readHead, hwords]
    show (g.scanHead .empty (before ++ word :: more) >>= _) = _
    rw [hresume more hmore, htext]
    rfl
  · refine .inr ⟨hrest, misuse, hmisuse, ?_⟩
    rw [readHead, hwords]
    rfl

/-! ### Options that are put first -/

variable (given : List (σ × Option String))

/-- **Options that have been given** stay in front, in whatever order options and operands come
behind. -/
theorem scan_after (ws : List (Word σ)) (r : Reading σ) :
    g.scan (r.after given) ws = Reading.after given <$> g.scan r ws := by
  -- on the cases of the reading; whether a place is open does not depend on what is given
  induction r, ws using scan.induct g with
  | case1 r =>
    rw [scan, scan]
    rfl
  | case2 r text rest ih =>
    rw [scan, scan]
    exact ih
  | case3 r text rule isShort attached rest ih =>
    rw [scan, scan]
    simp only [take_after, bind_map_left, map_bind]
    exact bind_congr fun taken => ih taken.1 taken.2
  | case4 r text bar rest hopen ih =>
    rw [scan, scan, if_pos hopen, if_pos (show g.isOpen (r.after given) = true from hopen)]
    exact ih
  | case5 r text bar rest hfull ih =>
    rw [scan, scan, if_neg hfull, if_neg (show ¬ g.isOpen (r.after given) = true from hfull)]
    exact ih
  | case6 r text rest hbar hopen ih =>
    rw [scan, scan, if_pos hopen, if_pos (show g.isOpen (r.after given) = true from hopen)]
    · exact ih
    · exact hbar
    · exact hbar
  | case7 r text rest hbar hfull ih =>
    rw [scan, scan, if_neg hfull, if_neg (show ¬ g.isOpen (r.after given) = true from hfull)]
    · exact ih
    · exact hbar
    · exact hbar
  | case8 r bar text rest hopen ih =>
    rw [scan, scan, if_pos hopen, if_pos (show g.isOpen (r.after given) = true from hopen)]
    exact ih
  | case9 r bar text rest hfull ih =>
    rw [scan, scan, if_neg hfull, if_neg (show ¬ g.isOpen (r.after given) = true from hfull)]
    exact ih
  | case10 r bar rest hoperand ih =>
    rw [scan, scan]
    · exact ih
    · exact hoperand
    · exact hoperand

/-- A line whose first words come to options is the rest of it with these options in front. -/
theorem read_after {g : Grammar σ} {given : List (σ × Option String)} {line front : List String}
    {ws : List (Word σ)} {r : Reading σ} (hline : g.read line = .ok r)
    (hwords : g.words (front ++ line) = (ws ++ ·) <$> g.words line)
    (hscan : ∀ rest, g.scan .empty (ws ++ rest)
      = g.scan (Reading.after given .empty) rest) :
    g.read (front ++ line) = .ok (r.after given) := by
  obtain ⟨rest, hrest, hread, hfull⟩ := read_ok hline
  rw [hrest] at hwords
  -- the words in front have been read, and they come to what is given before
  have hafter : g.scan .empty (ws ++ rest) = .ok (r.after given) := by
    rw [hscan, scan_after, hread]
    rfl
  exact read_of_scan g hwords hafter hfull

end Grammar
end CommandLine
end CertChain
