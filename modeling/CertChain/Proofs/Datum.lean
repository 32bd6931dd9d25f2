import CertChain.Fault
import CertChain.Proofs.Outcome

/-!
# Data that can be written

A datum can be written unless there is a number in it with too many digits, be it the datum itself
or somewhere in a list (`Datum.Writable`). To have a text is the same, with quotes around texts
(`Datum.exists_shown?_iff`) or without (`Datum.exists_plain?_iff`).
-/

namespace CertChain
namespace Datum

/-- **A datum that can be written**: there is no number in it with too many digits. -/
inductive Writable : Datum → Prop where
  | null : Writable .null
  | bool (b : Bool) : Writable (.bool b)
  | int {n : Int} (h : (Nat.toDigits 10 n.natAbs).length ≤ digitLimit) : Writable (.int n)
  | text (s : String) : Writable (.text s)
  | list {items : List Datum} (h : ∀ d ∈ items, Writable d) : Writable (.list items)

/-- A number is written unless it has too many digits. -/
theorem exists_numeral?_iff {n : Int} :
    (∃ s, numeral? n = some s) ↔ (Nat.toDigits 10 n.natAbs).length ≤ digitLimit := by
  unfold numeral?
  split_ifs with hfew
  · exact ⟨fun _ => hfew, fun _ => ⟨_, rfl⟩⟩
  · exact ⟨fun ⟨s, h⟩ => (nomatch h), fun h => absurd h hfew⟩

/-- A list of data is written item by item. -/
theorem shownAll?_cons_iff {d : Datum} {rest : List Datum} :
    (∃ texts, shownAll? (d :: rest) = some texts)
      ↔ (∃ s, d.shown? = some s) ∧ ∃ texts, shownAll? rest = some texts := by
  rw [shownAll?]
  constructor
  · rintro ⟨texts, h⟩
    obtain ⟨s, hs, h⟩ := Option.bind_eq_some_iff.mp h
    obtain ⟨others, hothers, -⟩ := Option.bind_eq_some_iff.mp h
    exact ⟨⟨s, hs⟩, others, hothers⟩
  · rintro ⟨⟨s, hs⟩, others, hothers⟩
    rw [hs, hothers]
    exact ⟨_, rfl⟩

mutual

/-- **Exactly the data that can be written have a text.** -/
theorem exists_shown?_iff : ∀ d : Datum, (∃ s, d.shown? = some s) ↔ d.Writable
  | .null => ⟨fun _ => .null, fun _ => ⟨_, rfl⟩⟩
  | .bool b => ⟨fun _ => .bool b, fun _ => ⟨_, rfl⟩⟩
  | .text s => ⟨fun _ => .text s, fun _ => ⟨_, rfl⟩⟩
  | .int n => by
    rw [shown?, exists_numeral?_iff]
    constructor
    · exact .int
    · intro h
      cases h with
      | int hfew => exact hfew
  | .list items => by
    -- the brackets are always there, so the items decide
    have hitems : (∃ s, (Datum.list items).shown? = some s)
        ↔ ∃ texts, shownAll? items = some texts := by
      rw [shown?]
      constructor
      · rintro ⟨s, h⟩
        obtain ⟨texts, htexts, -⟩ := Option.bind_eq_some_iff.mp h
        exact ⟨texts, htexts⟩
      · rintro ⟨texts, htexts⟩
        rw [htexts]
        exact ⟨_, rfl⟩
    rw [hitems, exists_shownAll?_iff items]
    constructor
    · exact .list
    · intro h
      cases h with
      | list hall => exact hall

/-- A list of data has texts exactly if all its items can be written. -/
theorem exists_shownAll?_iff : ∀ items : List Datum,
    (∃ texts, shownAll? items = some texts) ↔ ∀ d ∈ items, d.Writable
  | [] => ⟨fun _ => List.forall_mem_nil _, fun _ => ⟨[], rfl⟩⟩
  | d :: rest => by
    rw [shownAll?_cons_iff, exists_shown?_iff d, exists_shownAll?_iff rest, List.forall_mem_cons]

end

/-- It makes no difference whether texts stand in quotes. -/
theorem exists_plain?_iff {d : Datum} : (∃ s, d.plain? = some s) ↔ d.Writable := by
  cases d with
  | text s => exact ⟨fun _ => .text s, fun _ => ⟨s, rfl⟩⟩
  | null => exact exists_shown?_iff .null
  | bool b => exact exists_shown?_iff (.bool b)
  | int n => exact exists_shown?_iff (.int n)
  | list items => exact exists_shown?_iff (.list items)

/-- What is taken for nothing can be written. -/
theorem writable_of_isEmpty {d : Datum} (h : d.isEmpty = true) : d.Writable := by
  cases d with
  | null => exact .null
  | bool b => exact .bool b
  | int n =>
    -- the number is zero, which has one digit
    have hzero : n = 0 := eq_of_beq h
    rw [hzero]
    exact .int (by decide)
  | text s => exact .text s
  | list items =>
    cases items with
    | nil => exact .list (List.forall_mem_nil _)
    | cons d rest => cases h

/-! ### Numbers -/

/-- What is no number has no number. -/
theorem number?_eq_none_iff {d : Datum} : d.number? = none ↔ d.isNumber = false := by
  rw [isNumber, Option.isSome_eq_false_iff, Option.isNone_iff_eq_none]

/-- A number and something else are not the same. -/
theorem same_eq_false {a b : Datum} (ha : a.isNumber = true) (hb : b.isNumber = false) :
    a.same b = false := by
  -- only two numbers are compared as such; all other pairs need the same constructor
  have hnone : b.number? = none := number?_eq_none_iff.mpr hb
  cases a with
  | bool t =>
    rw [same, hnone]
    · rfl
    all_goals simp
  | int n =>
    rw [same, hnone]
    · rfl
    all_goals simp
  | null => cases ha
  | text s => cases ha
  | list items => cases ha

end Datum

/-- What is written is the text that there is. -/
theorem Fault.written_ok_iff {text? : Option String} {text : String} :
    Fault.written text? = .ok text ↔ text? = some text := by
  cases text? with
  | none => exact ⟨fun h => (nomatch h), fun h => (nomatch h)⟩
  | some s =>
    constructor
    · intro h
      cases h
      rfl
    · intro h
      cases h
      rfl

/-- A datum is written, or there is a fault, exactly as it can be written or not. -/
theorem Fault.exists_written_iff {d : Datum} :
    (∃ text, Fault.written d.plain? = .ok text) ↔ d.Writable := by
  simp only [Fault.written_ok_iff]
  exact Datum.exists_plain?_iff

end CertChain
