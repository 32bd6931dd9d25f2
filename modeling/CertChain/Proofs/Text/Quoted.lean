import CertChain.Text.Quoted
import Mathlib.Tactic.Ring
import Mathlib.Tactic.SplitIfs

/-!
# Reading quoted texts

A text in quotes can be told from every other one, even where something follows it
(`quoted_append_inj`): the first character is the quote, the next quote that is not behind a
backslash ends the text, and in between every character can be read off.

The last point is not about single characters. One character is written with up to ten, and those
may be any of the characters that can also stand for themselves. What makes it work is that no
character is written in a way that is the beginning of the way another one is written. This is
shown by reading: `Quoted.unescape` takes one character off, however it is written, and finds out
where the next one begins (`Quoted.unescape_escape`).
-/

namespace CertChain
namespace Quoted

/-! ### Numbers in hexadecimal digits -/

/-- The value of a hexadecimal digit. -/
def digitValue (c : Char) : Nat :=
  if c.isDigit then c.toNat - '0'.toNat else c.toNat - 'a'.toNat + 10

/-- The number in hexadecimal digits that goes on from `n`. -/
def hexValue (n : Nat) (digits : List Char) : Nat :=
  digits.foldl (fun n c => n * 16 + digitValue c) n

/-- The digit of a number below sixteen has that value. -/
theorem digitValue_digitChar : ∀ n < 16, digitValue (Nat.digitChar n) = n := by decide

/-- One digit more stands in front, for the next power of sixteen. -/
theorem hexDigits_succ (width n : Nat) :
    hexDigits (width + 1) n = Nat.digitChar (n / 16 ^ width % 16) :: hexDigits width n := by
  have shifted : n >>> (4 * width) = n / 16 ^ width := by
    rw [Nat.shiftRight_eq_div_pow, Nat.pow_mul]
  rw [hexDigits, List.range_succ, List.reverse_append, List.reverse_singleton,
    List.singleton_append, List.map_cons, shifted, hexDigits]

/-- There are as many digits as are asked for. -/
theorem length_hexDigits (width n : Nat) : (hexDigits width n).length = width := by
  simp [hexDigits]

/-- Digits give the number again, as far as they reach. -/
theorem hexValue_hexDigits (width n m : Nat) :
    hexValue m (hexDigits width n) = m * 16 ^ width + n % 16 ^ width := by
  -- on the number of digits; the first one joins what has been read before
  induction width generalizing m with
  | zero => simp [hexValue, hexDigits, Nat.mod_one]
  | succ width ih =>
    have digit : digitValue (Nat.digitChar (n / 16 ^ width % 16)) = n / 16 ^ width % 16 :=
      digitValue_digitChar _ (Nat.mod_lt _ (by decide))
    calc hexValue m (hexDigits (width + 1) n)
        = hexValue (m * 16 + n / 16 ^ width % 16) (hexDigits width n) := by
          rw [hexDigits_succ, hexValue, List.foldl_cons, digit, hexValue]
      _ = (m * 16 + n / 16 ^ width % 16) * 16 ^ width + n % 16 ^ width := ih _
      _ = m * 16 ^ (width + 1) + n % 16 ^ (width + 1) := by
          rw [Nat.mod_pow_succ, Nat.pow_succ]
          ring

/-! ### Characters -/

/-- The character with a number in so many digits, and what follows them. -/
def readNumbered (width : Nat) (cs : List Char) : Char × List Char :=
  (Char.ofNat (hexValue 0 (cs.take width)), cs.drop width)

/-- **One character as it stands between quotes**, and what follows it. -/
def unescape : List Char → Option (Char × List Char)
  | '\\' :: 't' :: rest => some ('\t', rest)
  | '\\' :: 'n' :: rest => some ('\n', rest)
  | '\\' :: 'r' :: rest => some ('\r', rest)
  | '\\' :: 'x' :: rest => some (readNumbered 2 rest)
  | '\\' :: 'u' :: rest => some (readNumbered 4 rest)
  | '\\' :: 'U' :: rest => some (readNumbered 8 rest)
  | '\\' :: c :: rest => some (c, rest)
  | c :: rest => some (c, rest)
  | [] => none

/-- A number in so many digits is read back, if that many are enough. -/
theorem readNumbered_hexDigits {width : Nat} {c : Char} (h : c.toNat < 16 ^ width)
    (rest : List Char) : readNumbered width (hexDigits width c.toNat ++ rest) = (c, rest) := by
  have taken : (hexDigits width c.toNat ++ rest).take width = hexDigits width c.toNat :=
    List.take_left' (length_hexDigits width _)
  have dropped : (hexDigits width c.toNat ++ rest).drop width = rest :=
    List.drop_left' (length_hexDigits width _)
  have number : hexValue 0 (hexDigits width c.toNat) = c.toNat := by
    rw [hexValue_hexDigits, Nat.zero_mul, Nat.zero_add, Nat.mod_eq_of_lt h]
  rw [readNumbered, taken, dropped, number, Char.ofNat_toNat]

/-- A character that is written by its number is read off. -/
theorem unescape_numbered (c : Char) (rest : List Char) :
    unescape (numbered c ++ rest) = some (c, rest) := by
  have largest : c.toNat < 16 ^ 8 := c.val.toNat_lt
  rw [numbered]
  -- the fewest digits that are enough are taken, and eight are always enough
  split_ifs with two four
  · exact congrArg some (readNumbered_hexDigits two rest)
  · exact congrArg some (readNumbered_hexDigits four rest)
  · exact congrArg some (readNumbered_hexDigits largest rest)

/-- A character that is no backslash is read off as it is. -/
theorem unescape_self {c : Char} (h : c ≠ '\\') (rest : List Char) :
    unescape (c :: rest) = some (c, rest) := by
  unfold unescape
  split <;> simp_all

/-- **A character is read off however it is written**, whatever follows it. -/
theorem unescape_escape {quote : Char} (hquote : quote = '\'' ∨ quote = '"') (c : Char)
    (rest : List Char) : unescape (escape quote c ++ rest) = some (c, rest) := by
  rw [escape]
  split_ifs with hescaped htab hfeed hreturn
  · -- What is no letter stands for itself behind a backslash.
    obtain rfl | rfl := hescaped
    · obtain rfl | rfl := hquote <;> rfl
    · rfl
  · rw [htab]; rfl
  · rw [hfeed]; rfl
  · rw [hreturn]; rfl
  · exact unescape_self (fun h => hescaped (.inr h)) rest
  · exact unescape_numbered c rest

/-! ### Texts -/

section Texts

variable {quote : Char} {c d : Char} {s t r r' : List Char}

/-- Characters can be told apart, and what follows them. -/
theorem escape_append_inj (hquote : quote = '\'' ∨ quote = '"')
    (h : escape quote c ++ r = escape quote d ++ r') : c = d ∧ r = r' := by
  -- both sides are read, and what is read is the same
  have read : some (c, r) = some (d, r') := by
    rw [← unescape_escape hquote, h, unescape_escape hquote]
  simpa using read

/-- A quote that ends the text is no character of it. -/
theorem quote_ne_escape (hquote : quote = '\'' ∨ quote = '"') :
    quote :: r ≠ escape quote c ++ r' := by
  intro h
  have hslash : quote ≠ '\\' := by obtain rfl | rfl := hquote <;> decide
  have read : some (quote, r) = some (c, r') := by
    rw [← unescape_self hslash, h, unescape_escape hquote]
  -- So the character would be the quote itself, and this one stands behind a backslash.
  obtain ⟨rfl, -⟩ : quote = c ∧ r = r' := by simpa using read
  rw [escape, if_pos (.inl rfl)] at h
  exact hslash (List.cons.inj h).1

/-- What stands before the closing quote can be told, and where that is. -/
theorem escaped_inj (hquote : quote = '\'' ∨ quote = '"')
    (h : s.flatMap (escape quote) ++ quote :: r = t.flatMap (escape quote) ++ quote :: r') :
    s = t ∧ r = r' := by
  -- character by character, until one of the texts ends, and then both do
  induction s generalizing t with
  | nil =>
    cases t with
    | nil => exact ⟨rfl, (List.cons.inj h).2⟩
    | cons d t =>
      rw [List.flatMap_cons, List.append_assoc] at h
      exact absurd h (quote_ne_escape hquote)
  | cons c s ih =>
    cases t with
    | nil =>
      rw [List.flatMap_cons, List.append_assoc] at h
      exact absurd h.symm (quote_ne_escape hquote)
    | cons d t =>
      rw [List.flatMap_cons, List.flatMap_cons, List.append_assoc, List.append_assoc] at h
      obtain ⟨rfl, rest⟩ := escape_append_inj hquote h
      obtain ⟨rfl, follows⟩ := ih rest
      exact ⟨rfl, follows⟩

/-- The quote is one of two. -/
theorem quoteFor_cases (s : List Char) : quoteFor s = '\'' ∨ quoteFor s = '"' := by
  rw [quoteFor]
  split_ifs
  · exact .inr rfl
  · exact .inl rfl

/-- A text in quotes, as the quote, the characters, and the quote again. -/
theorem encode_append (s r : List Char) :
    encode s ++ r
      = quoteFor s :: (s.flatMap (escape (quoteFor s)) ++ quoteFor s :: r) := by
  simp [encode]

/-- **Texts in quotes can be told apart**, and where they end. -/
theorem encode_append_inj (h : encode s ++ r = encode t ++ r') : s = t ∧ r = r' := by
  rw [encode_append, encode_append] at h
  -- the first character is the quote, and so both texts are in the same one
  obtain ⟨hquote, inside⟩ := List.cons.inj h
  rw [← hquote] at inside
  exact escaped_inj (quoteFor_cases s) inside

end Texts

end Quoted

/-- **Texts in quotes can be told apart**, and where they end. -/
theorem quoted_append_inj {s t u v : String} (h : quoted s ++ u = quoted t ++ v) :
    s = t ∧ u = v := by
  have characters := congrArg String.toList h
  rw [String.toList_append, String.toList_append, quoted, quoted, String.toList_ofList,
    String.toList_ofList] at characters
  obtain ⟨same, follows⟩ := Quoted.encode_append_inj characters
  exact ⟨String.toList_injective same, String.toList_injective follows⟩

end CertChain
