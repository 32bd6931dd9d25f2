import CertChain.Datum

/-!
# Passages of a text

A fault in the form of a text may say where in the text it is: in which file and line,
what the line says, and from which column to which one. `Passage.ofDatum?` takes a passage
from plain data, and `Passage.suffix` tells it in one line. How it is shown in lines of its
own is for `CertChain.Fault.Trace` to say.

All of this is taken as it is given. Nobody looks at the parts of a passage before it is
told, and then only at those that are told.
-/

namespace CertChain

/-- **A passage of a text.** Lines and columns count from 1. -/
structure Passage where
  file : Datum
  line : Datum
  column : Datum
  text : Datum
  endLine : Datum
  endColumn : Datum
  deriving Repr, Inhabited

namespace Passage

/-- The passage that file, line, column and text describe, and perhaps the line and the
column where it ends. -/
def ofData? : List Datum → Option Passage
  | [file, line, column, text] => some ⟨file, line, column, text, .null, .null⟩
  | [file, line, column, text, endLine, endColumn] =>
    some ⟨file, line, column, text, endLine, endColumn⟩
  | _ => none

/-- The parts that a datum has; those of a text are its characters. -/
def parts? : Datum → Option (List Datum)
  | .list items => some items
  | .text s => some (s.toList.map fun c => .text c.toString)
  | _ => none

/-- The passage that a datum describes. -/
def ofDatum? (d : Datum) : Option Passage :=
  (parts? d).bind ofData?

/-- The last name of a file, if there is a file. -/
def fileName? (p : Passage) : Option String :=
  match p.file with
  | .text s => (s.splitOn "/").getLast?
  | _ => none

/-- The number of the line, if it is one. A number that fits no word is shown as -1. -/
def lineNumber? (p : Passage) : Option Int :=
  match p.line with
  | .int n => some (if fitsWord n then n else -1)
  | _ => none

/-- **The passage in parentheses**, as it follows the text of a fault. Only a file that is
a text and a line that is a number are told. -/
def suffix (p : Passage) : String :=
  match p.fileName?, p.lineNumber? with
  | some file, some line => " (" ++ file ++ ", line " ++ toString line ++ ")"
  | some file, none => " (" ++ file ++ ")"
  | none, some line => " (line " ++ toString line ++ ")"
  | none, none => ""

end Passage
end CertChain
