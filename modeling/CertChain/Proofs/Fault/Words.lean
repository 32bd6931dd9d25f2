import CertChain.Proofs.Datum

/-!
# Which faults have a text

To put a fault into words may fail in three ways. Its kind may be one that has words of its own and
does not find them. One of the arguments that are told may not be writable. And what is said to be
at fault may be a character in front of the text. `Fault.Head.HasText` leaves these out, and
`Fault.Head.exists_text_iff` says that there is no fourth way.

Not all arguments are told (`Fault.Head.told`). A refusal by the system leaves out names of files
that are not there, a fault in the form of a text tells its message and of its passage only what
there are always words for, and a fault of characters has been made of texts and positions.
-/

namespace CertChain
namespace Fault

/-! ### Refusals by the system -/

/-- The names of files that stand in the text of a refusal by the system. -/
def toldFiles (kind : Kind) : List Datum → List Datum
  | [] | .null :: _ => []
  | file :: rest =>
    if kind = .system "BlockingIOError" ∧ file.isNumber then []
    else
      match rest with
      | [] | [_] | _ :: .null :: _ => [file]
      | _ :: other :: _ => [file, other]

/-- Names of files can be told exactly if all that are told can be written. -/
theorem exists_systemFiles?_iff {kind : Kind} {files : List Datum} :
    (∃ s, systemFiles? kind files = some s) ↔ ∀ d ∈ toldFiles kind files, d.Writable := by
  unfold systemFiles? toldFiles
  split
  · exact ⟨fun _ => List.forall_mem_nil _, fun _ => ⟨_, rfl⟩⟩
  · exact ⟨fun _ => List.forall_mem_nil _, fun _ => ⟨_, rfl⟩⟩
  · rename_i file rest hfile
    by_cases hwait : kind = .system "BlockingIOError" ∧ file.isNumber = true
    · simp only [if_pos hwait]
      exact ⟨fun _ => List.forall_mem_nil _, fun _ => ⟨_, rfl⟩⟩
    · simp only [if_neg hwait]
      -- one name, or two with an arrow between them: each is a condition on the names alone
      have hone : (∃ s, (file.shown?.bind fun first => some (": " ++ first)) = some s)
          ↔ ∀ d ∈ [file], d.Writable := by
        rw [List.forall_mem_singleton, ← Datum.exists_shown?_iff]
        simp [Option.bind_eq_some_iff]
      have htwo : ∀ other : Datum, (∃ s, (file.shown?.bind fun first =>
          other.shown?.bind fun second => some (": " ++ first ++ " -> " ++ second)) = some s)
            ↔ ∀ d ∈ [file, other], d.Writable := by
        intro other
        rw [List.forall_mem_cons, List.forall_mem_singleton, ← Datum.exists_shown?_iff,
          ← Datum.exists_shown?_iff]
        simp [Option.bind_eq_some_iff]
      -- the second name stands behind a place that is not looked at
      rcases rest with _ | ⟨between, _ | ⟨other, rest⟩⟩
      · exact hone
      · exact hone
      · cases other with
        | null => exact hone
        | bool b => exact htwo _
        | int n => exact htwo _
        | text t => exact htwo _
        | list items => exact htwo _

/-- A refusal by the system has a text if its number, its words and the names of its files can be
written. -/
theorem exists_systemText?_iff {kind : Kind} {number text : Datum} {files : List Datum} :
    (∃ s, systemText? kind number text files = some s)
      ↔ ∀ d ∈ number :: text :: toldFiles kind files, d.Writable := by
  rw [List.forall_mem_cons, List.forall_mem_cons, ← exists_systemFiles?_iff,
    ← Datum.exists_plain?_iff, ← Datum.exists_plain?_iff]
  simp [systemText?, Option.bind_eq_some_iff]

/-- A list of arguments in parentheses can be told exactly if each of them can be written. -/
theorem exists_parenthesised?_iff {args : List Datum} :
    (∃ s, parenthesised? args = some s) ↔ ∀ d ∈ args, d.Writable := by
  rw [← Datum.exists_shownAll?_iff]
  simp [parenthesised?, Option.bind_eq_some_iff]

/-! ### Characters -/

/-- **A character in front of a text**: there is one at fault, and its position is negative. -/
def IsMisplaced (first last : Datum) : Prop :=
  last.number?.getD 0 = first.number?.getD 0 + 1 ∧ first.number?.getD 0 < 0

/-- A text about characters can be told unless the one at fault is in front of the text. -/
theorem exists_charactersText_iff {kind : Kind} {text : String} {first last : Datum} :
    (∃ s, charactersText kind text (first.number?.getD 0) (last.number?.getD 0) = .ok s)
      ↔ ¬ IsMisplaced first last := by
  unfold charactersText IsMisplaced
  split_ifs with hmisplaced hone
  · exact ⟨fun ⟨s, h⟩ => (nomatch h), fun h => absurd hmisplaced h⟩
  -- in the other two cases there is a text, whichever of its forms it has
  all_goals
    refine ⟨fun _ => hmisplaced, fun _ => ?_⟩
    split
    · exact ⟨_, rfl⟩
    · exact ⟨_, rfl⟩

namespace Head

/-- **The arguments that are told** in the text of a fault. -/
def told (h : Head) : List Datum :=
  match h.kind.root, h.args with
  | .malformed _, args => [args.headD .null]
  | .unencodable, [.text _, .text _, _, _, .text _] => []
  | .untranslatable, [.text _, _, _, .text _] => []
  | .system _, number :: text :: files =>
    if files.length ≤ 3 then number :: text :: toldFiles h.kind files else h.args
  | _, args => args

/-- A fault is about a character in front of a text. -/
def AboutMisplaced (h : Head) : Prop :=
  match h.kind.root, h.args with
  | .unencodable, [.text _, .text _, first, last, .text _] => IsMisplaced first last
  | .untranslatable, [.text _, first, last, .text _] => IsMisplaced first last
  | _, _ => False

/-- **A fault that has a text.** If its kind has words of its own they are there, and if not all
arguments that are told can be written and no character is in front of a text. -/
def HasText (h : Head) : Prop :=
  match h.kind.wording with
  | .inherited => (∀ d ∈ h.told, d.Writable) ∧ ¬ h.AboutMisplaced
  | .own _ => True
  | .refused _ _ => False

variable {h : Head}

/-- What a kind without words of its own says can be told exactly if what is told can be written and
no character is misplaced. -/
theorem exists_saying_iff :
    (∃ s, h.saying = .ok s) ↔ (∀ d ∈ h.told, d.Writable) ∧ ¬ h.AboutMisplaced := by
  -- what is put around a text does not change whether there is one
  have hmap : ∀ {x : Except Fault String} {f : String → String},
      (∃ s, (do return f (← x)) = (.ok s : Except Fault String)) ↔ ∃ s, x = .ok s := by
    intro x f
    cases x <;> simp [bind, Except.bind, pure, Except.pure]
  unfold saying told AboutMisplaced
  -- one case for each way to put a fault into words, in the order of `saying`
  split
  case h_1 name hroot =>
    rw [hroot]
    simp only [hmap, exists_written_iff, List.forall_mem_singleton, not_false_eq_true, and_true]
  case h_2 encoding text first last reason hroot hargs =>
    rw [hroot, hargs]
    simp only [hmap, exists_charactersText_iff]
    simp
  case h_3 text first last reason hroot hargs =>
    rw [hroot, hargs]
    simp only [hmap, exists_charactersText_iff]
    simp
  case h_4 hargs hroot =>
    rw [hargs]
    simp
  case h_5 key hroot hargs =>
    rw [hroot, hargs]
    simp [written_ok_iff, Datum.exists_shown?_iff]
  case h_6 arg hargs hmalformed hkey =>
    rw [hargs]
    simp [exists_written_iff]
  case h_7 name number text files hroot hargs =>
    rw [hroot, hargs]
    simp only [written_ok_iff]
    split_ifs
    · rw [exists_systemText?_iff]
      simp
    · rw [exists_parenthesised?_iff]
      simp
  case h_8 =>
    simp only [written_ok_iff, exists_parenthesised?_iff, not_false_eq_true, and_true]

/-- **Exactly the faults that have a text are put into words.** -/
theorem exists_text_iff : (∃ s, h.text = .ok s) ↔ h.HasText := by
  unfold text HasText
  -- a kind with words of its own does not look at its arguments, nor does one that refuses
  cases h.kind.wording with
  | inherited => exact exists_saying_iff
  | own text => exact ⟨fun _ => trivial, fun _ => ⟨text, rfl⟩⟩
  | refused name text => exact ⟨fun ⟨s, hs⟩ => (nomatch hs), fun hnone => hnone.elim⟩

end Head
end Fault

/-! ### Short forms -/

namespace Failure

variable {code : ErrorCode} {message : String} {fault : Fault}

/-- A failure is told with the text of its fault, be it ever so short. -/
theorem detail_of_hasText (h : fault.head.HasText) : ∃ text, fault.text = .ok text
    ∧ (because code message fault).detail = .ok (message ++ ": " ++ text) := by
  obtain ⟨text, htext⟩ := Fault.Head.exists_text_iff.mpr h
  have hfault : fault.text = .ok text := htext
  refine ⟨text, hfault, ?_⟩
  rw [detail_because, hfault]
  rfl

/-- Who asks for the short form of a failure whose fault has no text gets the same as who asks for
the text. -/
theorem detail_of_not_hasText (h : ¬ fault.head.HasText) : ∃ other, fault.text = .error other
    ∧ (because code message fault).detail = .error other := by
  cases hfault : fault.text with
  | ok text => exact absurd (Fault.Head.exists_text_iff.mp ⟨text, hfault⟩) h
  | error other =>
    refine ⟨other, rfl, ?_⟩
    rw [detail_because, hfault]
    rfl

end Failure
end CertChain
