/-!
# White space and letter case

Two classes of white space occur. `isWhiteSpace` is the Unicode property
White_Space; `isBlank` adds the four information separators U+001C to U+001F, which
also part words. Configuration texts are cut at blanks.

Level names and truth values are compared without regard to case. All of them
consist of ASCII letters, so the case maps below only need to be right about
characters whose image is made of ASCII letters: besides the ASCII letters themselves
these are the dotless i and the long s, whose capitals are `I` and `S`, the sharp s and
the ligatures, whose capitals are two or three letters.
-/

namespace CertChain

/-- The Unicode property White_Space. -/
def isWhiteSpace (c : Char) : Bool :=
  let n := c.toNat
  (9 ≤ n && n ≤ 13) || n == 0x20 || n == 0x85 || n == 0xA0 || n == 0x1680
    || (0x2000 ≤ n && n ≤ 0x200A) || n == 0x2028 || n == 0x2029 || n == 0x202F
    || n == 0x205F || n == 0x3000

/-- White space, and the four information separators. -/
def isBlank (c : Char) : Bool :=
  isWhiteSpace c || (0x1C ≤ c.toNat && c.toNat ≤ 0x1F)

/-- A blank that does not end the line. -/
def isInlineBlank (c : Char) : Bool :=
  isBlank c && c != '\n' && c != '\r'

/-- A list without the elements at its end that satisfy `p`. -/
def dropEndWhile (p : Char → Bool) (cs : List Char) : List Char :=
  (cs.reverse.dropWhile p).reverse

/-- A text without the blanks at its two ends. -/
def strip (text : String) : String :=
  String.ofList (dropEndWhile isBlank (text.toList.dropWhile isBlank))

/-- The letters beyond ASCII whose capitals are ASCII letters. -/
def asciiCapitals : List (Nat × String) :=
  [(0xDF, "SS"), (0x131, "I"), (0x17F, "S"), (0xFB00, "FF"), (0xFB01, "FI"), (0xFB02, "FL"),
    (0xFB03, "FFI"), (0xFB04, "FFL"), (0xFB05, "ST"), (0xFB06, "ST")]

/-- The capital of a letter whose capital is made of ASCII letters. -/
def capital (c : Char) : List Char :=
  match asciiCapitals.lookup c.toNat with
  | some letters => letters.toList
  | none => [c.toUpper]

/-- Letters whose capitals are ASCII letters are replaced by them. -/
def capitals (text : String) : String :=
  String.ofList (text.toList.flatMap capital)

/-- ASCII letters are replaced by their small forms. -/
def smalls (text : String) : String :=
  String.ofList (text.toList.map Char.toLower)

end CertChain
