import CertChain.Fault
import CertChain.Text.Blank

/-!
# Traces

`Fault.trace` tells the whole story of a fault: the chain of faults, oldest first, each
with its kind, its text and its notes, and between two of them a sentence that says how
they are linked.

A fault in the form of a text is told in a way of its own. It shows the passage that it
points to: a heading with file and line, the text itself, and marks under the columns. The
parts of a passage are plain data of any kind, and here they are looked at for the first
time. If one of them is not what it is taken for there is no trace, and who asks for it
gets the fault that says so.
-/

namespace CertChain

/-! ### Passages in lines of their own -/

namespace Passage

/-- Whether the line has a name, so that it is shown apart from the fault. -/
def hasLine (p : Passage) : Bool :=
  match p.line with
  | .null => false
  | _ => true

/-- **The check that is made of a passage before anything is told**: both lines have to have
a text. -/
def take (p : Passage) : Except Fault Unit := do
  let _ ← Fault.written p.line.plain?
  let _ ← Fault.written p.endLine.plain?

/-- The name of the file in a heading. -/
def headingFile (p : Passage) : Except Fault String :=
  if p.file.isEmpty then .ok "<string>" else Fault.written p.file.plain?

/-- The line that names file and line. -/
def heading (p : Passage) : Except Fault String :=
  if p.hasLine then do
    let file ← p.headingFile
    return "  File \"" ++ file ++ "\", line " ++ (← Fault.written p.line.plain?) ++ "\n"
  else .ok ""

/-- The file in parentheses, where no heading names it. -/
def headlessSuffix (p : Passage) : Except Fault String :=
  match p.hasLine, p.file with
  | true, _ | _, .null => .ok ""
  | _, file => do return " (" ++ (← Fault.written file.plain?) ++ ")"

/-- Whether a character at the front of a text is not shown. -/
def isIndent (c : Char) : Bool :=
  c == ' ' || c == '\n' || c == '\x0c'

/-- The characters of a text that are shown. -/
def shownOf (text : String) : List Char :=
  (dropEndWhile (· == '\n') text.toList).dropWhile isIndent

/-- How many characters at the front of a text are not shown. -/
def indentOf (text : String) : Nat :=
  (dropEndWhile (· == '\n') text.toList).length - (shownOf text).length

/-- Where the marks end, if it is said. Zero says nothing, and lists cannot be asked. -/
def end? (p : Passage) : Except Fault (Option Datum) :=
  match p.endColumn with
  | .null => .ok none
  | .list _ => .error (.ofText Fault.Kind.type "unhashable type: 'list'")
  | d => .ok (if d.number? = some 0 then none else some d)

/-- The number that a column is, for the sake of a subtraction. -/
def subtrahend (column : Datum) : Except Fault Int :=
  match column.number? with
  | some n => .ok n
  | none =>
    .error (.ofText Fault.Kind.type ("unsupported operand type(s) for -: '" ++ column.kindName
      ++ "' and 'int'"))

/-- The column behind a column. -/
def next (column : Datum) : Except Fault Datum :=
  match column.number? with
  | some n => .ok (.int (n + 1))
  | none =>
    .error (.ofText Fault.Kind.type ("can only concatenate " ++ column.kindName
      ++ " (not \"int\") to " ++ column.kindName))

/-- The column where the marks end, which is not the one where they begin. -/
def apart (p : Passage) (last : Datum) : Except Fault Datum :=
  if p.column.same last ∨ last.number? = some (-1) then next p.column else .ok last

/-- Where the marks begin and where they end, as columns. -/
def span (p : Passage) : Except Fault (Int × Int) := do
  let last ← p.apart ((← p.end?).getD p.column)
  return (← subtrahend p.column, ← subtrahend last)

/-- So many marks, if a word can count them. -/
def rowOf (count : Int) : Except Fault (List Char) :=
  if fitsWord count then .ok (List.replicate count.toNat '^')
  else .error (.ofText Fault.Kind.overflow "cannot fit 'int' into an index-sized integer")

/-- The marks under a text. What stands left of them is blank, and as wide as the text. -/
def marks (p : Passage) (text : String) : Except Fault String :=
  match p.column with
  | .null => .ok ""
  | _ => do
    let (first, last) ← p.span
    let front := first - 1 - indentOf text
    if front < 0 then return ""
    let left := ((shownOf text).take front.toNat).map fun c => if isBlank c then c else ' '
    return "    " ++ String.ofList (left ++ (← rowOf (last - first))) ++ "\n"

/-- The text and the marks under it. -/
def excerpt (p : Passage) : Except Fault String :=
  match p.text with
  | .null => .ok ""
  | .text text => do
    return "    " ++ String.ofList (shownOf text) ++ "\n" ++ (← p.marks text)
  | d =>
    .error (.ofText Fault.Kind.member ("'" ++ d.kindName ++ "' object has no attribute 'rstrip'"))

/-- **A passage in lines of its own.** -/
def lines (p : Passage) : Except Fault String := do
  return (← p.heading) ++ (← p.excerpt)

end Passage

namespace Fault

/-! ### One fault -/

/-- What stands for the text of a fault that has none. -/
def textless : String := "<exception str() failed>"

/-- What a passage is asked for, if the fault points to one. -/
def Head.ofPassage (h : Head) (part : Passage → Except Fault String) : Except Fault String :=
  match h.passage? with
  | none => .ok ""
  | some p => part p

/-- What stands behind the kind in a trace: the text if it is not empty. A fault in the
form of a text has some words in any case, and leaves its passage to others. -/
def Head.words (h : Head) : Except Fault String :=
  match h.kind.root with
  | .malformed _ =>
    let message := h.args.headD .null
    if message.isEmpty then .ok ": <no detail available>"
    else do return ": " ++ (← written message.plain?)
  | _ =>
    match h.text with
    | .ok text => .ok (if text.isEmpty then "" else ": " ++ text)
    | .error _ => .ok (": " ++ textless)

/-- The notes of a fault, line by line. -/
def Head.noteLines (h : Head) : String :=
  "".intercalate (h.notes.flatMap fun note => (note.splitOn "\n").map fun line => line ++ "\n")

/-- One fault in a trace: the passage that it points to, its kind, its words, and its
notes. -/
def Head.entry (h : Head) : Except Fault String := do
  let suffix ← h.ofPassage Passage.headlessSuffix
  let lines ← h.ofPassage Passage.lines
  return lines ++ h.kind.traceName ++ (← h.words) ++ suffix ++ "\n" ++ h.noteLines

/-- The check that is made of a fault before anything is told. -/
def Head.take (h : Head) : Except Fault Unit :=
  match h.passage? with
  | none => .ok ()
  | some p => p.take

/-! ### The story -/

/-- The chain of faults that is told, oldest first, each but the oldest with its link
to the one before. -/
def chain : Fault → List (Option Link × Head)
  | .alone head => [(none, head)]
  | .caused head cause => chain cause ++ [(some .cause, head)]
  | .during head context isHidden =>
    if isHidden then [(none, head)] else chain context ++ [(some .context, head)]
  | .causedDuring head cause _ => chain cause ++ [(some .cause, head)]

/-- The sentence between two faults. -/
def Link.sentence : Link → String
  | .cause => "\nThe above exception was the direct cause of the following exception:\n\n"
  | .context => "\nDuring handling of the above exception, another exception occurred:\n\n"

/-- A fault of the chain, behind the sentence for its link. -/
def tell (link : Option Link) (head : Head) : Except Fault String := do
  return (match link with | none => "" | some link => link.sentence) ++ (← head.entry)

/-- **The trace of a fault.** The whole chain is looked at before it is told, from the
fault back to the oldest one. -/
def trace (fault : Fault) : Except Fault String := do
  fault.chain.reverse.forM fun (_, head) => head.take
  return "".intercalate (← fault.chain.mapM fun (link, head) => tell link head)

end Fault
end CertChain
