import CertChain.Text.Blank

/-!
# Settings files

A settings file holds bindings, one after the other: a name, an equals sign, a value.
The name may have the word `export` before it and may stand in single quotes. The value
is the rest of the line without a comment, or it stands in quotes of either kind, inside
which a backslash keeps a quote from closing. A name alone is a binding without a value.
A line that is none of this is passed over.

Values may refer to the environment and to the bindings before them, as `${NAME}` or
`${NAME:-text}`; the text counts when there is no such name. Of several bindings of one
name the last counts, in the place of the first.

* `DotEnv.bindings` reads the bindings of a text.
* `DotEnv.resolve` puts in what they refer to.
-/

namespace CertChain
namespace DotEnv

/-- A name, with a value unless it stands alone. -/
structure Binding where
  name : String
  value : Option String
  deriving DecidableEq, Repr

/-- A scanner takes what it wants off the front of a text. If it cannot, it says where
it stopped. -/
abbrev Scanner := StateT (List Char) (Except (List Char))

/-! ### Quotes -/

/-- What stands before the quote that closes, and behind it. A quote behind a backslash
does not close, unless it is the last one. -/
def closeQuote (quote : Char) : List Char → Option (List Char × List Char)
  | [] => none
  | [c] => if c = quote then some ([], []) else none
  | c :: d :: rest =>
    if c = '\\' ∧ d = quote then
      match closeQuote quote rest with
      | some (inside, behind) => some (c :: d :: inside, behind)
      | none => some ([c], rest)
    else if c = quote then some ([], d :: rest)
    else (closeQuote quote (d :: rest)).map fun (inside, behind) => (c :: inside, behind)

/-- What a backslash makes of the character behind it, in single quotes. -/
def singleEscapes : List (Char × Char) :=
  [('\\', '\\'), ('\'', '\'')]

/-- What a backslash makes of the character behind it, in double quotes. -/
def doubleEscapes : List (Char × Char) :=
  [('\\', '\\'), ('\'', '\''), ('"', '"'), ('a', '\x07'), ('b', '\x08'), ('f', '\x0c'),
    ('n', '\n'), ('r', '\r'), ('t', '\t'), ('v', '\x0b')]

/-- A text with its escapes replaced. Other backslashes stand for themselves. -/
def unescape (escapes : List (Char × Char)) : List Char → List Char
  | [] => []
  | [c] => [c]
  | c :: d :: rest =>
    match if c = '\\' then escapes.lookup d else none with
    | some e => e :: unescape escapes rest
    | none => c :: unescape escapes (d :: rest)

/-! ### One binding -/

/-- Blanks up to the end of the line. -/
def skipInline : Scanner Unit :=
  modify fun cs => cs.dropWhile isInlineBlank

/-- The word `export`, with the blanks behind it. -/
def skipExport : Scanner Unit :=
  modify fun cs =>
    let word := "export".toList
    let behind := cs.drop word.length
    if cs.take word.length = word ∧ (behind.head?.any isInlineBlank) then
      behind.dropWhile isInlineBlank
    else cs

/-- The name. A comment has none. -/
def scanName : Scanner (Option String) := do
  match ← get with
  | '#' :: _ => return none
  | '\'' :: rest =>
    match rest.takeWhile (· ≠ '\''), rest.dropWhile (· ≠ '\'') with
    | c :: name, _ :: behind =>
      set behind
      return some (String.ofList (c :: name))
    | _, _ => throw (← get)
  | cs =>
    let isPart (c : Char) : Bool := c != '=' && c != '#' && !isBlank c
    if (cs.takeWhile isPart).isEmpty then throw cs
    set (cs.dropWhile isPart)
    return some (String.ofList (cs.takeWhile isPart))

/-- The text before the first comment, which begins with a blank. -/
def cutComment : List Char → List Char
  | [] => []
  | c :: rest =>
    if isBlank c ∧ (rest.dropWhile isBlank).head? = some '#' then [] else c :: cutComment rest

/-- A value in quotes. -/
def scanQuoted (quote : Char) (escapes : List (Char × Char)) (inside : List Char) :
    Scanner String := do
  match closeQuote quote inside with
  | none => throw (← get)
  | some (value, behind) =>
    set behind
    return String.ofList (unescape escapes value)

/-- The value behind an equals sign. -/
def scanValue : Scanner String := do
  match ← get with
  | '\'' :: rest => scanQuoted '\'' singleEscapes rest
  | '"' :: rest => scanQuoted '"' doubleEscapes rest
  | cs =>
    set (cs.dropWhile (· ≠ '\n'))
    return String.ofList (dropEndWhile isBlank (cutComment (cs.takeWhile (· ≠ '\n'))))

/-- A comment, if there is one. -/
def skipComment : Scanner Unit :=
  modify fun cs =>
    let behind := cs.dropWhile isInlineBlank
    if behind.head? = some '#' then behind.dropWhile (· ≠ '\n') else cs

/-- The end of the line, or of the text. -/
def endLine : Scanner Unit := do
  let cs ← get
  match cs.dropWhile isInlineBlank with
  | [] => set ([] : List Char)
  | '\n' :: rest => set rest
  | _ => throw cs

/-- **One line**: a binding, or only a comment. -/
def scanLine : Scanner (Option Binding) := do
  skipExport
  let name ← scanName
  skipInline
  let value ←
    match ← get with
    | '=' :: rest =>
      set (rest.dropWhile isInlineBlank)
      some <$> scanValue
    | _ => pure none
  skipComment
  endLine
  return name.map fun name => ⟨name, value⟩

/-- What is left behind the end of the line. -/
def nextLine (cs : List Char) : List Char :=
  (cs.dropWhile (· ≠ '\n')).drop 1

/-- All bindings, where each line is at least one character long. -/
def bindingsFrom (cs : List Char) : List Binding :=
  let line := cs.dropWhile isBlank
  if line.isEmpty then []
  else
    let (binding, rest) :=
      match scanLine.run line with
      | .ok (binding, rest) => (binding, rest)
      | .error stopped => (none, nextLine stopped)
    if _h : rest.length < cs.length then binding.toList ++ bindingsFrom rest else binding.toList
termination_by cs.length

/-- A text with every line end written as a line feed. -/
def withLineFeeds : List Char → List Char
  | [] => []
  | ['\r'] => ['\n']
  | c :: d :: rest =>
    if c = '\r' then
      if d = '\n' then '\n' :: withLineFeeds rest else '\n' :: withLineFeeds (d :: rest)
    else c :: withLineFeeds (d :: rest)
  | [c] => [c]

/-- **The bindings of a text.** A byte order mark before them is passed over. -/
def bindings (text : String) : List Binding :=
  let cs := withLineFeeds text.toList
  bindingsFrom (if cs.head? = some '\uFEFF' then cs.tail else cs)

/-! ### References -/

/-- A name that a value refers to, and the text that counts when there is no such
name. -/
structure Reference where
  name : String
  default : String
  deriving DecidableEq, Repr

/-- The reference whose opening has been read, and what stands behind it. -/
def reference? (cs : List Char) : Option (Reference × List Char) :=
  let isName (c : Char) : Bool := c != '}' && c != ':'
  let name := String.ofList (cs.takeWhile isName)
  match cs.dropWhile isName with
  | '}' :: rest => some (⟨name, ""⟩, rest)
  | ':' :: '-' :: text =>
    match text.dropWhile (· ≠ '}') with
    | _ :: rest => some (⟨name, String.ofList (text.takeWhile (· ≠ '}'))⟩, rest)
    | [] => none
  | _ => none

theorem length_lt_of_reference? {cs rest : List Char} {r : Reference}
    (h : reference? cs = some (r, rest)) : rest.length < cs.length := by
  have shorter (p : Char → Bool) (xs : List Char) : (xs.dropWhile p).length ≤ xs.length :=
    (List.dropWhile_sublist p).length_le
  simp only [reference?] at h
  split at h
  · rename_i tail hd
    have := hd ▸ shorter _ cs
    simp only [Option.some.injEq, Prod.mk.injEq] at h
    rw [← h.2]
    simp only [List.length_cons] at this
    omega
  · rename_i text hd
    have outer := hd ▸ shorter _ cs
    split at h
    · rename_i head tail ht
      have inner := ht ▸ shorter _ text
      simp only [Option.some.injEq, Prod.mk.injEq] at h
      rw [← h.2]
      simp only [List.length_cons] at outer inner
      omega
    · cases h
  · cases h

/-- A text with its references replaced. -/
def expand (valueOf : String → Option String) (cs : List Char) : List Char :=
  match cs with
  | [] => []
  | c :: rest =>
    match _h : if c = '$' ∧ rest.head? = some '{' then reference? rest.tail else none with
    | some (r, behind) => ((valueOf r.name).getD r.default).toList ++ expand valueOf behind
    | none => c :: expand valueOf rest
termination_by cs.length
decreasing_by
  · split at _h
    · have := length_lt_of_reference? _h
      simp only [List.length_tail, List.length_cons] at this ⊢
      omega
    · cases _h
  · simp only [List.length_cons]
    omega

/-- Bindings by name, in order. -/
abbrev Table := List (String × Option String)

/-- A name with a new value, in its old place if it has one. -/
def Table.put (table : Table) (name : String) (value : Option String) : Table :=
  if table.any fun entry => entry.1 == name then
    table.map fun entry => if entry.1 = name then (name, value) else entry
  else table ++ [(name, value)]

/-- What a name stands for: a binding, or else the environment. A binding without a
value stands for nothing. -/
def Table.valueOf (environment : List (String × String)) (table : Table) (name : String) :
    Option String :=
  match table.lookup name with
  | some value => some (value.getD "")
  | none => environment.lookup name

/-- **The values of bindings**, each with its references replaced. -/
def resolve (environment : List (String × String)) (bindings : List Binding) : Table :=
  bindings.foldl (fun table b =>
    table.put b.name (b.value.map fun text =>
      String.ofList (expand (Table.valueOf environment table) text.toList))) []

end DotEnv
end CertChain
