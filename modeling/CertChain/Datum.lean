import CertChain.Text.Quoted

/-!
# Plain data

The arguments of a fault are plain data: nothing at all, truth values, whole numbers,
texts, and lists of data. `Datum.shown` writes a datum the way a reader could tell it
from every other one, with texts in quotes; `Datum.plain` is the same but for a text,
which stands for itself.

Not every datum can be written. A number with more than `digitLimit` digits is not, and
nor is a list that holds one.
-/

namespace CertChain

/-- A plain datum. -/
inductive Datum where
  | null
  | bool (b : Bool)
  | int (n : Int)
  | text (s : String)
  | list (items : List Datum)
  deriving Repr, Inhabited

/-- Whether a number fits a word of 64 bits with a sign. -/
def fitsWord (n : Int) : Bool :=
  -(1 <<< 63 : Nat) ≤ n && n < (1 <<< 63 : Nat)

/-- The words for a truth value. -/
def truthText (b : Bool) : String :=
  if b then "True" else "False"

/-- The word for nothing at all. -/
def nullText : String := "None"

/-- Shown items in brackets. -/
def bracketed (items : List String) : String :=
  "[" ++ ", ".intercalate items ++ "]"

/-- The most digits with which a number is written. -/
def digitLimit : Nat := 4300

/-- **A number in digits**, unless there are too many of them. The sign is none. -/
def numeral? (n : Int) : Option String :=
  if (Nat.toDigits 10 n.natAbs).length ≤ digitLimit then some (toString n) else none

namespace Datum

mutual

/-- **A datum as text**, if it can be written. -/
def shown? : Datum → Option String
  | .null => some nullText
  | .bool b => some (truthText b)
  | .int n => numeral? n
  | .text s => some (quoted s)
  | .list items => do return bracketed (← shownAll? items)

/-- Data as texts, if all of them can be written. -/
def shownAll? : List Datum → Option (List String)
  | [] => some []
  | d :: rest => do return (← shown? d) :: (← shownAll? rest)

end

/-- A datum as text, texts without quotes. -/
def plain? : Datum → Option String
  | .text s => some s
  | d => d.shown?

/-- Whether a datum is taken for nothing: no value, a zero, an empty text or list. -/
def isEmpty : Datum → Bool
  | .null => true
  | .bool b => !b
  | .int n => n == 0
  | .text s => s.isEmpty
  | .list items => items.isEmpty

/-- The number that a datum is. Truth values count as one and zero. -/
def number? : Datum → Option Int
  | .bool b => some b.toInt
  | .int n => some n
  | _ => none

/-- Whether a datum is a number. -/
def isNumber (d : Datum) : Bool :=
  d.number?.isSome

/-- The name of a datum's kind. -/
def kindName : Datum → String
  | .null => "NoneType"
  | .bool _ => "bool"
  | .int _ => "int"
  | .text _ => "str"
  | .list _ => "list"

mutual

/-- Whether two data are the same. A truth value is the same as the number that it is. -/
def same : Datum → Datum → Bool
  | .null, .null => true
  | .text s, .text t => s == t
  | .list xs, .list ys => sameAll xs ys
  | a, b => a.isNumber && a.number? == b.number?

/-- Whether two lists have the same data. -/
def sameAll : List Datum → List Datum → Bool
  | [], [] => true
  | x :: xs, y :: ys => same x y && sameAll xs ys
  | _, _ => false

end

mutual

/-- Whether two data are equal, constructor by constructor. -/
def equal : Datum → Datum → Bool
  | .null, .null => true
  | .bool a, .bool b => a == b
  | .int a, .int b => a == b
  | .text a, .text b => a == b
  | .list xs, .list ys => equalAll xs ys
  | _, _ => false

/-- Whether two lists of data are equal. -/
def equalAll : List Datum → List Datum → Bool
  | [], [] => true
  | x :: xs, y :: ys => equal x y && equalAll xs ys
  | _, _ => false

end

mutual

theorem equal_iff : ∀ a b : Datum, equal a b = true ↔ a = b
  | .list xs, b => by
    cases b with
    | list ys => simpa [equal] using equalAll_iff xs ys
    | _ => simp [equal]
  | .null, b | .bool _, b | .int _, b | .text _, b => by cases b <;> simp [equal]

theorem equalAll_iff : ∀ xs ys : List Datum, equalAll xs ys = true ↔ xs = ys
  | [], ys => by cases ys <;> simp [equalAll]
  | _ :: _, [] => by simp [equalAll]
  | x :: xs, y :: ys => by
    rw [equalAll, Bool.and_eq_true, equal_iff x y, equalAll_iff xs ys, List.cons.injEq]

end

instance : DecidableEq Datum := fun a b => decidable_of_iff _ (equal_iff a b)

end Datum
end CertChain
