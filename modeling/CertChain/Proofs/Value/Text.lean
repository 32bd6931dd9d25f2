import CertChain.Format
import CertChain.Proofs.Datum
import CertChain.Proofs.Text.Quoted
import CertChain.Proofs.Value.Comparison
import Mathlib

/-!
# Values that can be told from their texts

Two values that can be written have the same text exactly if they are equal but for what is behind
their failures (`Value.shown_eq_iff`). So values with the same text are the same. The converse
fails: the number 1 and a truth value are the same, and their texts are not. A formed value can be
written unless there is a number in it with too many digits (`Value.Writable`).

The text of a value has no room for mistakes, but this is not easy to see in it. Whatever separates
the items of a list, and whatever closes it, may occur in a text inside the list, and a text inside
it may spell a whole list. So the statement that is proved by induction is about a text with
anything behind it (`Value.spelled_append_inj`): it can be told which value it begins with, and
where the text of this value ends. One thing may not follow. A number ends where its digits end,
so that behind a number no further digit may stand (`Value.Delimited`); what the texts of lists and
of successes put there is never a digit.

The name of a format that is none is quoted in the failure that answers it, and for the same reason
the failure tells which name that was (`Format.parse_same_iff`).
-/

namespace CertChain

namespace ErrorCode

/-- There is no colon in the name of a code, so the name ends at the first one. -/
theorem ne_colon_of_mem_name {code : ErrorCode} : ∀ c ∈ code.name.toList, c != ':' := by
  cases code <;> simp [name]

end ErrorCode

namespace Value

/-! ### The characters of a text -/

mutual

/-- **The characters of a formed value's text.** -/
def spelled : Value → List Char
  | .null => nullText.toList
  | .bool b => (truthText b).toList
  | .int n => (toString n).toList
  | .text s => Quoted.encode s.toList
  | .list items => '[' :: spelledItems items
  | .success v => "Success(".toList ++ (spelled v ++ [')'])
  | .failure f => (shownFailure f).toList
  | .description _ | .unformed => []

/-- The characters of a list behind its opening bracket. -/
def spelledItems : List Value → List Char
  | [] => [']']
  | v :: rest => spelled v ++ spelledRest rest

/-- The characters of a list behind one of its items. -/
def spelledRest : List Value → List Char
  | [] => [']']
  | v :: rest => ',' :: ' ' :: (spelled v ++ spelledRest rest)

end

section Equations

variable (v : Value) (rest : List Value)

@[simp] theorem spelled_null : spelled .null = nullText.toList := rfl

@[simp] theorem spelled_bool (b : Bool) : spelled (.bool b) = (truthText b).toList := rfl

@[simp] theorem spelled_int (n : Int) : spelled (.int n) = (toString n).toList := rfl

@[simp] theorem spelled_text (s : String) : spelled (.text s) = Quoted.encode s.toList := rfl

@[simp] theorem spelled_list : spelled (.list rest) = '[' :: spelledItems rest := rfl

@[simp] theorem spelled_success :
    spelled (.success v) = "Success(".toList ++ (spelled v ++ [')']) := rfl

@[simp] theorem spelled_failure (f : Failure) :
    spelled (.failure f) = (shownFailure f).toList := rfl

@[simp] theorem spelledItems_cons : spelledItems (v :: rest) = spelled v ++ spelledRest rest := rfl

@[simp] theorem spelledRest_cons :
    spelledRest (v :: rest) = ',' :: ' ' :: (spelled v ++ spelledRest rest) := rfl

end Equations

/-- Items with separators between them, as an item and the rest behind it. -/
theorem intercalate_spelled (v : Value) (rest : List Value) :
    [',', ' '].intercalate ((v :: rest).map spelled) ++ [']'] = spelled v ++ spelledRest rest := by
  induction rest generalizing v with
  | nil => rw [List.map_cons, List.map_nil, List.intercalate_singleton]; rfl
  | cons w rest ih =>
    have nonempty : (w :: rest).map spelled ≠ [] := List.cons_ne_nil _ _
    calc [',', ' '].intercalate ((v :: w :: rest).map spelled) ++ [']']
        = spelled v
            ++ ([',', ' '] ++ ([',', ' '].intercalate ((w :: rest).map spelled) ++ [']'])) := by
          rw [List.map_cons, List.intercalate_cons_of_ne_nil nonempty, List.append_assoc,
            List.append_assoc]
      _ = spelled v ++ spelledRest (w :: rest) := by rw [ih, spelledRest_cons]; rfl

/-- The characters of a list are those of its items, between brackets. -/
theorem toList_bracketed (items : List Value) :
    (bracketed (items.map fun v => String.ofList (spelled v))).toList
      = '[' :: spelledItems items := by
  have characters : (items.map fun v => String.ofList (spelled v)).map String.toList
      = items.map spelled := by
    simp [Function.comp_def]
  rw [bracketed, String.toList_append, String.toList_append, String.toList_intercalate, characters]
  cases items with
  | nil => rfl
  | cons v rest =>
    rw [spelledItems_cons, ← intercalate_spelled]
    rfl

/-- **A value that can be written**: formed, and without a number of too many digits. -/
inductive Writable : Value → Prop where
  | null : Writable .null
  | bool (b : Bool) : Writable (.bool b)
  | int {n : Int} (h : (Nat.toDigits 10 n.natAbs).length ≤ digitLimit) : Writable (.int n)
  | text (s : String) : Writable (.text s)
  | list {items : List Value} (h : ∀ v ∈ items, Writable v) : Writable (.list items)
  | success {v : Value} (h : Writable v) : Writable (.success v)
  | failure (f : Failure) : Writable (.failure f)

/-- What can be written is formed. -/
theorem Writable.formed {v : Value} (h : Writable v) : Formed v := by
  induction h with
  | null => exact .null
  | bool b => exact .bool b
  | int _ => exact .int _
  | text s => exact .text s
  | list _ ih => exact .list ih
  | success _ ih => exact .success ih
  | failure f => exact .failure f

/-- Items that have texts have them together. -/
theorem shownAll_eq {items : List Value}
    (h : ∀ v ∈ items, shown v = .ok (String.ofList (spelled v))) :
    shownAll items = .ok (items.map fun v => String.ofList (spelled v)) := by
  induction items with
  | nil => rw [shownAll, List.map_nil]
  | cons v rest ih =>
    rw [shownAll, h v (.head _), ih fun w hw => h w (.tail _ hw)]
    rfl

/-- A value that can be written has a text, which has these characters. -/
theorem shown_eq {v : Value} (h : Writable v) : shown v = .ok (String.ofList (spelled v)) := by
  -- on how the value is formed; only in numbers and lists something can go wrong
  induction h with
  | int h =>
    rw [shown, numeral?, if_pos h, spelled_int, String.ofList_toList]
    rfl
  | list _ ih =>
    rw [shown, shownAll_eq ih, spelled_list, ← toList_bracketed, String.ofList_toList]
    rfl
  | @success v _ ih =>
    have characters : String.ofList (spelled (.success v))
        = "Success(" ++ String.ofList (spelled v) ++ ")" :=
      String.toList_injective (by simp)
    rw [shown, ih, characters]
    rfl
  | text s => rw [shown, spelled_text, quoted]
  | _ => simp [shown]

/-- Each item of a list with a text has one. -/
theorem exists_shown_of_shownAll {items : List Value} {texts : List String}
    (h : shownAll items = .ok texts) : ∀ v ∈ items, ∃ text, shown v = .ok text := by
  induction items generalizing texts with
  | nil => exact fun v hv => nomatch hv
  | cons v rest ih =>
    obtain ⟨text, hv, h⟩ := bind_ok h
    obtain ⟨others, hrest, -⟩ := bind_ok h
    intro w hw
    obtain rfl | hw := List.mem_cons.mp hw
    · exact ⟨text, hv⟩
    · exact ih hrest w hw

/-- **Exactly the values that can be written have a text**, among formed ones. -/
theorem exists_shown_iff {v : Value} (h : Formed v) :
    (∃ text, shown v = .ok text) ↔ Writable v := by
  constructor
  · intro htext
    -- the text of a whole has been put together from the texts of its parts
    induction h with
    | null => exact .null
    | bool b => exact .bool b
    | int n =>
      obtain ⟨text, htext⟩ := htext
      exact .int (Datum.exists_numeral?_iff.mp ⟨text, Fault.written_ok_iff.mp htext⟩)
    | text s => exact .text s
    | list _ ih =>
      obtain ⟨text, htext⟩ := htext
      obtain ⟨texts, hitems, -⟩ := bind_ok htext
      exact .list fun v hv => ih v hv (exists_shown_of_shownAll hitems v hv)
    | success _ ih =>
      obtain ⟨text, htext⟩ := htext
      obtain ⟨carried, hcarried, -⟩ := bind_ok htext
      exact .success (ih ⟨carried, hcarried⟩)
    | failure f => exact .failure f
  · exact fun hwritable => ⟨_, shown_eq hwritable⟩

/-- Of characters of one sort with others behind them it can be told where they end. -/
theorem append_inj_of_takeWhile {p : Char → Bool} {l l' r r' : List Char}
    (hl : ∀ c ∈ l, p c) (hl' : ∀ c ∈ l', p c) (hr : r.takeWhile p = []) (hr' : r'.takeWhile p = [])
    (h : l ++ r = l' ++ r') : l = l' ∧ r = r' := by
  -- the characters of the sort are taken as long as there are any
  have taken : l = l' :=
    calc l = (l ++ r).takeWhile p := by
          rw [List.takeWhile_append_of_pos hl, hr, List.append_nil]
      _ = (l' ++ r').takeWhile p := by rw [h]
      _ = l' := by rw [List.takeWhile_append_of_pos hl', hr', List.append_nil]
  rw [taken] at h
  exact ⟨taken, List.append_cancel_left h⟩

/-! ### Numbers -/

/-- The characters of numbers. -/
def isNumeral (c : Char) : Bool :=
  c.isDigit || c == '-'

/-- Characters that do not go on with a number. -/
def Delimited (r : List Char) : Prop :=
  r.takeWhile isNumeral = []

/-- The end of a text goes on with nothing. -/
theorem delimited_nil : Delimited [] := rfl

/-- What closes a success goes on with no number. -/
theorem delimited_parenthesis (r : List Char) : Delimited (')' :: r) := rfl

/-- A number is written in digits, behind a sign if it is negative. -/
theorem exists_toDigits (n : Int) :
    ∃ sign m, (sign = [] ∨ sign = ['-']) ∧ (toString n).toList = sign ++ Nat.toDigits 10 m := by
  cases n with
  | ofNat n => exact ⟨[], n, .inl rfl, Nat.toList_repr⟩
  | negSucc n =>
    refine ⟨['-'], n + 1, .inr rfl, ?_⟩
    rw [← Nat.toList_repr]
    exact String.toList_append

/-- A number is written in digits and with a sign. -/
theorem isNumeral_of_mem {n : Int} {c : Char} (h : c ∈ (toString n).toList) : isNumeral c := by
  obtain ⟨sign, m, hsign, written⟩ := exists_toDigits n
  rw [written, List.mem_append] at h
  obtain h | h := h
  · obtain rfl | rfl := hsign
    · cases h
    · rw [List.mem_singleton.mp h]
      rfl
  · simp [isNumeral, Nat.isDigit_of_mem_toDigits (by decide) (by decide) h]

/-- A number is written with one character at least. -/
theorem toString_ne_nil (n : Int) : (toString n).toList ≠ [] := by
  obtain ⟨sign, m, -, written⟩ := exists_toDigits n
  rw [written]
  exact List.append_ne_nil_of_right_ne_nil _ Nat.toDigits_ne_nil

/-- Numbers can be told apart where no digit follows them. -/
theorem int_append_inj {n m : Int} {r r' : List Char} (hr : Delimited r) (hr' : Delimited r')
    (h : (toString n).toList ++ r = (toString m).toList ++ r') : n = m ∧ r = r' := by
  -- the digits end where the sort of the characters changes
  obtain ⟨digits, rest⟩ :=
    append_inj_of_takeWhile (fun _ => isNumeral_of_mem) (fun _ => isNumeral_of_mem) hr hr' h
  have numbers : n.repr = m.repr := String.toList_injective digits
  exact ⟨Int.repr_inj.mp numbers, rest⟩

/-! ### Truth values and failures -/

/-- Truth values can be told apart by their first letter. -/
theorem truthText_append_inj {a b : Bool} {r r' : List Char}
    (h : (truthText a).toList ++ r = (truthText b).toList ++ r') : a = b ∧ r = r' := by
  have letters {r r' : List Char} : (truthText true).toList ++ r ≠ (truthText false).toList ++ r' :=
    fun h => absurd (List.cons.inj h).1 (by decide)
  cases a <;> cases b
  case true.true | false.false => exact ⟨rfl, List.append_cancel_left h⟩
  case true.false => exact absurd h letters
  case false.true => exact absurd h.symm letters

/-- The text of a failure, as its code up to the colon and its message in quotes. -/
theorem shownFailure_append (f : Failure) (r : List Char) :
    (shownFailure f).toList ++ r = "Failure(".toList ++ (f.code.name.toList ++ ':' :: ' ' ::
      (Quoted.encode f.message.toList ++ ')' :: r)) := by
  simp [shownFailure, quoted]

/-- Failures with the same text are the same. -/
theorem failure_append_inj {f g : Failure} {r r' : List Char}
    (h : (shownFailure f).toList ++ r = (shownFailure g).toList ++ r') :
    Failure.plain f.code f.message = .plain g.code g.message ∧ r = r' := by
  rw [shownFailure_append, shownFailure_append] at h
  -- the code ends at the first colon, and the message where its quote closes
  obtain ⟨names, rest⟩ := append_inj_of_takeWhile ErrorCode.ne_colon_of_mem_name
    ErrorCode.ne_colon_of_mem_name rfl rfl (List.append_cancel_left h)
  have quotes : Quoted.encode f.message.toList ++ ')' :: r
      = Quoted.encode g.message.toList ++ ')' :: r' := by
    simpa using rest
  obtain ⟨messages, closed⟩ := Quoted.encode_append_inj quotes
  have code : f.code = g.code := ErrorCode.name_injective (String.toList_injective names)
  have message : f.message = g.message := String.toList_injective messages
  exact ⟨by rw [code, message], (List.cons.inj closed).2⟩

/-! ### Kinds -/

/-- The kind of the value that a text begins with. -/
def kindOfText : List Char → String
  | [] => ""
  | c :: rest =>
    if isNumeral c then "int"
    else match c, rest with
      | 'N', _ => "NoneType"
      | 'T', _ | 'F', 'a' :: 'l' :: _ => "bool"
      | 'F', _ => "Failure"
      | 'S', _ => "Success"
      | '[', _ => "list"
      | '\'', _ | '"', _ => "str"
      | _, _ => ""

/-- The first characters of a text tell the kind of the value. -/
theorem kindOfText_spelled {v : Value} (h : Formed v) (r : List Char) :
    kindOfText (spelled v ++ r) = v.kindName := by
  cases h with
  | null => rfl
  | bool b => cases b <;> rfl
  | int n =>
    obtain ⟨c, rest, digits⟩ := List.exists_cons_of_ne_nil (toString_ne_nil n)
    -- A sign and a digit are told from all other first characters alike.
    have numeral : isNumeral c := isNumeral_of_mem (n := n) (digits ▸ List.mem_cons_self)
    rw [spelled_int, digits]
    exact if_pos numeral
  | text s =>
    rw [spelled_text, Quoted.encode_append]
    obtain hquote | hquote := Quoted.quoteFor_cases s.toList <;> rw [hquote] <;> rfl
  | list _ => rfl
  | success _ => rfl
  | failure f => rw [spelled_failure, shownFailure_append]; rfl

/-! ### Unique reading -/

/-- What follows an item of a list is no part of a number. -/
theorem delimited_spelledRest (items : List Value) (r : List Char) :
    Delimited (spelledRest items ++ r) := by
  cases items <;> rfl

/-- A value that is read off a text does not close a list. -/
theorem spelled_ne_bracket {v : Value} (h : Formed v) (r r' : List Char) :
    spelled v ++ r ≠ ']' :: r' := by
  intro same
  have kind : v.kindName = "" := by rw [← kindOfText_spelled h r, same]; rfl
  cases h <;> simp [kindName] at kind

/-- What it means that a value can be read off every text that begins with it. -/
def ReadOff (a : Value) : Prop :=
  ∀ {b : Value} {r r' : List Char}, Formed b → Delimited r → Delimited r' →
    spelled a ++ r = spelled b ++ r' → a.stripped = b.stripped ∧ r = r'

/-- If the items can be read off, so can the rest of a list. -/
theorem spelledRest_append_inj {xs ys : List Value} {r r' : List Char}
    (hxs : ∀ x ∈ xs, ReadOff x) (hys : ∀ y ∈ ys, Formed y)
    (h : spelledRest xs ++ r = spelledRest ys ++ r') :
    strippedAll xs = strippedAll ys ∧ r = r' := by
  -- item by item; a bracket where an item is expected ends both lists
  induction xs generalizing ys with
  | nil =>
    cases ys with
    | nil => exact ⟨rfl, (List.cons.inj h).2⟩
    | cons y ys => exact absurd (List.cons.inj h).1 (by decide)
  | cons x xs ih =>
    cases ys with
    | nil => exact absurd (List.cons.inj h).1 (by decide)
    | cons y ys =>
      have items : spelled x ++ (spelledRest xs ++ r) = spelled y ++ (spelledRest ys ++ r') := by
        simpa using h
      obtain ⟨hitem, hrest⟩ := hxs x (.head _) (hys y (.head _)) (delimited_spelledRest xs r)
        (delimited_spelledRest ys r') items
      obtain ⟨hitems, follows⟩ :=
        ih (fun x' hx => hxs x' (.tail _ hx)) (fun y' hy => hys y' (.tail _ hy)) hrest
      exact ⟨by rw [strippedAll, strippedAll, hitem, hitems], follows⟩

/-- If the items can be read off, so can a list. -/
theorem spelledItems_append_inj {xs ys : List Value} {r r' : List Char}
    (hxs : ∀ x ∈ xs, Formed x ∧ ReadOff x) (hys : ∀ y ∈ ys, Formed y)
    (h : spelledItems xs ++ r = spelledItems ys ++ r') :
    strippedAll xs = strippedAll ys ∧ r = r' := by
  cases xs with
  | nil =>
    cases ys with
    | nil => exact ⟨rfl, (List.cons.inj h).2⟩
    | cons y ys =>
      rw [spelledItems_cons, List.append_assoc] at h
      exact absurd h.symm (spelled_ne_bracket (hys y (.head _)) _ _)
  | cons x xs =>
    cases ys with
    | nil =>
      rw [spelledItems_cons, List.append_assoc] at h
      exact absurd h (spelled_ne_bracket (hxs x (.head _)).1 _ _)
    | cons y ys =>
      -- With a separator in front, a list is the rest of one.
      have separated : spelledRest (x :: xs) ++ r = spelledRest (y :: ys) ++ r' :=
        congrArg (',' :: ' ' :: ·) h
      exact spelledRest_append_inj (fun x hx => (hxs x hx).2) hys separated

/-- **The value at the beginning of a text can be told**, and where it ends. -/
theorem spelled_append_inj {a : Value} (ha : Formed a) : ReadOff a := by
  -- Only values of one kind have texts that begin alike.
  have kinds {a b : Value} {r r' : List Char} (ha : Formed a) (hb : Formed b)
      (h : spelled a ++ r = spelled b ++ r') : a.kindName = b.kindName := by
    rw [← kindOfText_spelled ha r, h, kindOfText_spelled hb]
  -- on the first value; the kind of the second is known from the characters, and so is its form
  induction ha with
  | null =>
    intro b r r' hb hr hr' h
    have kind := kinds .null hb h
    cases hb with
    | null => exact ⟨rfl, List.append_cancel_left h⟩
    | _ => simp [kindName] at kind
  | bool a =>
    intro b r r' hb hr hr' h
    have kind := kinds (.bool a) hb h
    cases hb with
    | bool b =>
      obtain ⟨rfl, rest⟩ := truthText_append_inj h
      exact ⟨rfl, rest⟩
    | _ => simp [kindName] at kind
  | int n =>
    intro b r r' hb hr hr' h
    have kind := kinds (.int n) hb h
    cases hb with
    | int m =>
      obtain ⟨rfl, rest⟩ := int_append_inj hr hr' h
      exact ⟨rfl, rest⟩
    | _ => simp [kindName] at kind
  | text s =>
    intro b r r' hb hr hr' h
    have kind := kinds (.text s) hb h
    cases hb with
    | text t =>
      obtain ⟨characters, rest⟩ := Quoted.encode_append_inj h
      exact ⟨by rw [String.toList_injective characters], rest⟩
    | _ => simp [kindName] at kind
  | @list items formed ih =>
    intro b r r' hb hr hr' h
    have kind := kinds (.list formed) hb h
    cases hb with
    | list hb =>
      obtain ⟨same, rest⟩ := spelledItems_append_inj (fun x hx => ⟨formed x hx, ih x hx⟩) hb
        (List.cons.inj h).2
      exact ⟨by rw [stripped, stripped, same], rest⟩
    | _ => simp [kindName] at kind
  | @success v formed ih =>
    intro b r r' hb hr hr' h
    have kind := kinds (.success formed) hb h
    cases hb with
    | @success w hb =>
      have carried : spelled v ++ (')' :: r) = spelled w ++ (')' :: r') := by
        simpa using h
      obtain ⟨same, rest⟩ :=
        ih hb (delimited_parenthesis r) (delimited_parenthesis r') carried
      exact ⟨by rw [stripped, stripped, same], (List.cons.inj rest).2⟩
    | _ => simp [kindName] at kind
  | failure f =>
    intro b r r' hb hr hr' h
    have kind := kinds (.failure f) hb h
    cases hb with
    | failure g =>
      obtain ⟨same, rest⟩ := failure_append_inj h
      exact ⟨by rw [stripped, stripped, same], rest⟩
    | _ => simp [kindName] at kind

/-! ### Texts and sameness -/

mutual

/-- What is behind failures is not part of a text. -/
theorem shown_stripped : ∀ v : Value, shown v.stripped = shown v
  | .list items => by rw [stripped, shown, shown, shownAll_stripped items]
  | .success v => by rw [stripped, shown, shown, shown_stripped v]
  | .failure _ => rfl
  | .null | .bool _ | .int _ | .text _ | .description _ | .unformed => rfl

/-- The same of the items of a list. -/
theorem shownAll_stripped : ∀ items : List Value, shownAll (strippedAll items) = shownAll items
  | [] => rfl
  | v :: rest => by
    rw [strippedAll, shownAll, shownAll, shown_stripped v, shownAll_stripped rest]

end

/-- **Values that can be written have the same text exactly if they are equal but for what is
behind their failures.** -/
theorem shown_eq_iff {a b : Value} (ha : Writable a) (hb : Writable b) :
    shown a = shown b ↔ a.stripped = b.stripped := by
  constructor
  · intro h
    rw [shown_eq ha, shown_eq hb] at h
    -- nothing stands behind the texts, which is as good as a delimiter
    have characters : spelled a ++ [] = spelled b ++ [] :=
      congrArg (· ++ []) (String.ofList_injective (Except.ok.inj h))
    exact (spelled_append_inj ha.formed hb.formed delimited_nil delimited_nil characters).1
  · intro h
    rw [← shown_stripped a, h, shown_stripped b]

/-- Formed values with the same text are the same. -/
theorem same_of_shown_eq {a b : Value} {text : String} (ha : Formed a) (hb : Formed b)
    (htext : shown a = .ok text) (htext' : shown b = .ok text) : same a b = true := by
  have hwritten : Writable a := (exists_shown_iff ha).mp ⟨text, htext⟩
  have hwritten' : Writable b := (exists_shown_iff hb).mp ⟨text, htext'⟩
  have hstripped : a.stripped = b.stripped :=
    (shown_eq_iff hwritten hwritten').mp (htext.trans htext'.symm)
  exact (same_iff ha hb).mpr (essence_of_stripped hstripped)

end Value

/-! ### Names of formats -/

/-- Whether two outcomes are the same, given how their values compare. -/
def Outcome.sameBy {α : Type} (equal : α → α → Bool) : Outcome α → Outcome α → Bool
  | .ok a, .ok b => equal a b
  | .error f, .error g => f.agrees g
  | _, _ => false

/-- The outcomes of any type are compared as the outcomes that are values. -/
theorem Value.same_ofOutcome (a b : Outcome Value) :
    same (ofOutcome a) (ofOutcome b) = Outcome.sameBy same a b := by
  cases a <;> cases b <;> rfl

namespace Format

/-- A name of a format, or a text that is quoted in a failure. -/
theorem parse_cases (text : String) :
    (∃ format, parse text = .ok format ∧ text = format.name)
      ∨ parse text = .error (.plain .unknownFormat
          ("Unknown certificate format " ++ quoted text ++ ", expected one of: pem, der")) := by
  rw [parse]
  cases found : ofName? text with
  | some format =>
    have named : format.name = text := by simpa using List.find?_some found
    exact .inl ⟨format, rfl, named.symm⟩
  | none => exact .inr rfl

/-- **Asking for a format by name tells the names apart**, whether there is such a format or
not. -/
theorem parse_same_iff (s t : String) :
    Outcome.sameBy (· == ·) (parse s) (parse t) = true ↔ s = t := by
  constructor
  · intro same
    obtain ⟨format, hs, named⟩ | hs := parse_cases s
    · obtain ⟨format', ht, named'⟩ | ht := parse_cases t
      · -- Two formats are the same, and each has one name.
        rw [hs, ht, Outcome.sameBy, beq_iff_eq] at same
        rw [named, named', same]
      · rw [hs, ht] at same
        cases same
    · obtain ⟨format', ht, named'⟩ | ht := parse_cases t
      · rw [hs, ht] at same
        cases same
      · -- Two failures quote the texts, which can be read off the messages.
        rw [hs, ht, Outcome.sameBy] at same
        have messages : "Unknown certificate format " ++ quoted s ++ ", expected one of: pem, der"
            = "Unknown certificate format " ++ quoted t ++ ", expected one of: pem, der" :=
          congrArg Failure.message (Failure.agrees_iff.mp same)
        rw [String.append_assoc, String.append_assoc] at messages
        exact (quoted_append_inj (String.append_right_inj _ |>.mp messages)).1
  · rintro rfl
    obtain ⟨format, hs, -⟩ | hs := parse_cases s
    · rw [hs, Outcome.sameBy, beq_self_eq_true]
    · rw [hs, Outcome.sameBy, Failure.agrees_iff]

end Format

namespace Value

/-- **The text of an outcome identifies it.** Formed outcomes with the same text are the same; the
text of a formed outcome is the text of outcomes in general, or both are the same fault, and there
is one unless a number has too many digits; and a failure that quotes the name of a format can be
told from the others. -/
theorem text_identifies :
    (∀ (a b : Value) (text : String), Formed a → Formed b →
      shown a = .ok text → shown b = .ok text → same a b = true)
    ∧ (∀ a : Value, Formed a → a.isOutcome →
      shownOutcome a = shown a ∧ ((∃ text, shown a = .ok text) ↔ Writable a))
    ∧ ∀ s t : String,
      Outcome.sameBy (· == ·) (Format.parse s) (Format.parse t) = true ↔ s = t := by
  refine ⟨fun a b text ha hb => same_of_shown_eq ha hb, fun a ha houtcome => ?_,
    Format.parse_same_iff⟩
  have general : shownOutcome a = shown a := by
    cases a <;> cases houtcome
    case success v => rfl
    case failure f => rfl
    case unformed => nomatch ha
  exact ⟨general, exists_shown_iff ha⟩

/-- A failure that comes from a fault beside a text that looks like the end of a list. -/
theorem text_identifies_samples :
    let noted : Value :=
      .success (.list [.text "', 1]", .failure (.because .ioError "m" unreachable)])
    let plain : Value := .success (.list [.text "', 1]", .failure (.plain .ioError "m")])
    (∃ text, shown noted = .ok text ∧ shown plain = .ok text) ∧ same noted plain = true
    ∧ shownOutcome noted = shown noted
    ∧ Outcome.sameBy (· == ·) (Format.parse "PEM") (Format.parse "pem ") = false := by
  intro noted plain
  obtain ⟨identified, general, names⟩ := text_identifies
  have writable (f : Failure) : Writable (.success (.list [.text "', 1]", .failure f])) := by
    refine .success (.list ?_)
    simp [Writable.text, Writable.failure]
  have formed (f : Failure) : Formed (.success (.list [.text "', 1]", .failure f])) :=
    (writable f).formed
  obtain ⟨alike, one⟩ := general noted (formed _) rfl
  obtain ⟨text, there⟩ := one.mpr (writable _)
  have here : shown plain = .ok text :=
    ((shown_eq_iff (writable _) (writable _)).mpr rfl).symm.trans there
  have apart : ¬ "PEM" = "pem " := by decide
  exact ⟨⟨text, there, here⟩, identified _ _ text (formed _) (formed _) there here, alike,
    Bool.eq_false_iff.mpr fun same => apart ((names _ _).mp same)⟩

end Value
end CertChain
