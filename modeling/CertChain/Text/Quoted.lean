import CertChain.Text.Printable

/-!
# Quoted texts

Messages show the texts they speak of in quotes, so that a reader sees where the
text begins and ends and which characters it holds. The quote is the single one,
unless the text holds single quotes and no double ones. Inside, a backslash and
the quote in use stand behind a backslash; tab, line feed and carriage return are
written `\t`, `\n` and `\r`; every other character that cannot be seen is written
by its number in two, four or eight hexadecimal digits. In particular a quoted
text never breaks the line, whatever it holds.
-/

namespace CertChain
namespace Quoted

/-- The last `width` hexadecimal digits of `n`. -/
def hexDigits (width n : Nat) : List Char :=
  (List.range width).reverse.map fun i => Nat.digitChar (n >>> (4 * i) % 16)

/-- A character by its number, in the fewest of two, four and eight digits. -/
def numbered (c : Char) : List Char :=
  if c.toNat < 0x100 then '\\' :: 'x' :: hexDigits 2 c.toNat
  else if c.toNat < 0x10000 then '\\' :: 'u' :: hexDigits 4 c.toNat
  else '\\' :: 'U' :: hexDigits 8 c.toNat

/-- The quote around a text: double when that saves escapes, else single. -/
def quoteFor (text : List Char) : Char :=
  if '\'' ∈ text ∧ '"' ∉ text then '"' else '\''

/-- One character as it stands between the quotes `quote`. -/
def escape (quote c : Char) : List Char :=
  if c = quote ∨ c = '\\' then ['\\', c]
  else if c = '\t' then ['\\', 't']
  else if c = '\n' then ['\\', 'n']
  else if c = '\r' then ['\\', 'r']
  else if isPrintable c then [c]
  else numbered c

/-- A text in its quotes, as characters. -/
def encode (text : List Char) : List Char :=
  let quote := quoteFor text
  quote :: text.flatMap (escape quote) ++ [quote]

end Quoted

/-- **A text in quotes**, as messages show it. -/
def quoted (text : String) : String :=
  String.ofList (Quoted.encode text.toList)

end CertChain
