import CertChain.Fault.Passage

/-!
# Faults

A fault is what a computation leaves behind when it does not come to an end: a kind,
arguments, notes, and perhaps an earlier fault. The earlier one is either its direct
cause or was being handled when it arose.

`Fault.text` is the fault in words, which depends on its kind and on its arguments. Some
faults have none: a number among the arguments has too many digits, or the kind has words
of its own and fails to find them. Who asks for the text of such a fault gets another
fault instead. The story of a fault, with all that came before it, is told in
`CertChain.Fault.Trace`.

Faults are of two sorts. Most can be handled; a *departure*, such as the wish to leave
the program, passes through every handler (`Fault.isDeparture`).
-/

namespace CertChain

namespace Fault

/-- Where the kind of a fault takes its words from. -/
inductive Wording where
  /-- The words are those of the kind that it derives from. -/
  | inherited
  /-- The words are a text of its own. -/
  | own (text : String)
  /-- There are no words: looking for them ends with a fault that has this name and text. -/
  | refused (name text : String)
  deriving DecidableEq, Repr, Inhabited

/-- **What kind of thing went wrong.** The kinds that are spelled out have rules of their
own; the others differ in their names only. -/
inductive Kind where
  /-- A name is looked up and not there. -/
  | key
  /-- The operating system refuses. The name says more than that, if it can. -/
  | system (name : String)
  /-- A signature does not hold. -/
  | invalidSignature
  /-- An algorithm is not known. -/
  | unsupportedAlgorithm
  /-- A text breaks the rules of its language. -/
  | malformed (name : String)
  /-- Octets spell no text. -/
  | undecodable
  /-- A text cannot be written in an encoding. -/
  | unencodable
  /-- A text has characters that no other ones stand for. -/
  | untranslatable
  /-- Several faults at once. -/
  | group (name : String)
  /-- The program is to be left. -/
  | departure (name : String)
  /-- Any other that is built in. -/
  | named (name : String)
  /-- A kind that is declared in the module `home`. It follows the rules of the kind that
  it derives from, but for its words if it has some of its own. -/
  | derived (base : Kind) (home name : String) (wording : Wording)
  deriving DecidableEq, Repr, Inhabited

namespace Kind

def value : Kind := .named "ValueError"
def type : Kind := .named "TypeError"
def member : Kind := .named "AttributeError"
def overflow : Kind := .named "OverflowError"

/-- The name by which reports call the kind. -/
def name : Kind → String
  | .key => "KeyError"
  | .system name => name
  | .invalidSignature => "InvalidSignature"
  | .unsupportedAlgorithm => "UnsupportedAlgorithm"
  | .malformed name => name
  | .undecodable => "UnicodeDecodeError"
  | .unencodable => "UnicodeEncodeError"
  | .untranslatable => "UnicodeTranslateError"
  | .group name => name
  | .departure name => name
  | .named name => name
  | .derived _ _ name _ => name

/-- The modules whose kinds are called by their names alone. -/
def plainHomes : List String := ["__main__", "builtins"]

/-- **The name by which a trace calls the kind**: the module that it is declared in stands
in front, unless it is built in or declared by the program that runs. -/
def traceName : Kind → String
  | .invalidSignature => "cryptography.exceptions.InvalidSignature"
  | .unsupportedAlgorithm => "cryptography.exceptions.UnsupportedAlgorithm"
  | .derived _ home name _ => if plainHomes.contains home then name else home ++ "." ++ name
  | kind => kind.name

/-- The kind whose rules a kind follows: itself, unless it derives from another one. -/
def root : Kind → Kind
  | .derived base _ _ _ => base.root
  | kind => kind

/-- Where a kind takes its words from in the end, after all that it derives from. -/
def wording : Kind → Wording
  | .derived base _ _ .inherited => base.wording
  | .derived _ _ _ wording => wording
  | _ => .inherited

/-- Whether no handler takes a fault of the kind. Of groups of faults one sort may hold
departures and is taken for one. -/
def isDeparture (kind : Kind) : Bool :=
  match kind.root with
  | .departure _ => true
  | .group name => name == "BaseExceptionGroup"
  | _ => false

/-! ### Names -/

/-- The names of refusals by the operating system. Three of them are one kind. -/
def systemNames : List String :=
  ["OSError", "BlockingIOError", "ChildProcessError", "ConnectionError", "BrokenPipeError",
    "ConnectionAbortedError", "ConnectionRefusedError", "ConnectionResetError",
    "FileExistsError", "FileNotFoundError", "InterruptedError", "IsADirectoryError",
    "NotADirectoryError", "PermissionError", "ProcessLookupError", "TimeoutError"]

/-- The names of faults in the form of a text. -/
def malformedNames : List String :=
  ["SyntaxError", "IndentationError", "TabError"]

/-- The names of groups of faults. -/
def groupNames : List String :=
  ["ExceptionGroup", "BaseExceptionGroup"]

/-- The names of departures. -/
def departureNames : List String :=
  ["BaseException", "SystemExit", "KeyboardInterrupt", "GeneratorExit"]

/-- The names of kinds with rules of their own, and the second names of one of them. -/
def ruledNames : List String :=
  ["KeyError", "UnicodeDecodeError", "UnicodeEncodeError", "UnicodeTranslateError", "IOError",
    "EnvironmentError"]

/-- The names of all other kinds that are built in. -/
def otherNames : List String :=
  ["ArithmeticError", "AssertionError", "AttributeError", "BufferError", "BytesWarning",
    "DeprecationWarning", "EOFError", "EncodingWarning", "Exception", "FloatingPointError",
    "FutureWarning", "ImportError", "ImportWarning", "IndexError", "LookupError",
    "MemoryError", "ModuleNotFoundError", "NameError", "NotImplementedError",
    "OverflowError", "PendingDeprecationWarning", "RecursionError", "ReferenceError",
    "ResourceWarning", "RuntimeError", "RuntimeWarning", "StopAsyncIteration",
    "StopIteration", "SyntaxWarning", "SystemError", "TypeError", "UnboundLocalError",
    "UnicodeError", "UnicodeWarning", "UserWarning", "ValueError", "Warning",
    "ZeroDivisionError"]

/-- **The names of all kinds that are built in.** -/
def builtinNames : List String :=
  systemNames ++ malformedNames ++ groupNames ++ departureNames ++ ruledNames ++ otherNames

/-- The kind with a name, one that is built in or belongs to signatures. -/
def ofName (name : String) : Kind :=
  if name = "KeyError" then .key
  else if name = "InvalidSignature" then .invalidSignature
  else if name = "UnsupportedAlgorithm" then .unsupportedAlgorithm
  else if name = "IOError" ∨ name = "EnvironmentError" then .system "OSError"
  else if systemNames.contains name then .system name
  else if departureNames.contains name then .departure name
  else if malformedNames.contains name then .malformed name
  else if groupNames.contains name then .group name
  else if name = "UnicodeDecodeError" then .undecodable
  else if name = "UnicodeEncodeError" then .unencodable
  else if name = "UnicodeTranslateError" then .untranslatable
  else .named name

/-- The error numbers of refusals by the system that have a name of their own. -/
def errorNumbers : List (Int × String) :=
  [(1, "PermissionError"), (2, "FileNotFoundError"), (3, "ProcessLookupError"),
    (4, "InterruptedError"), (10, "ChildProcessError"), (11, "BlockingIOError"),
    (13, "PermissionError"), (17, "FileExistsError"), (20, "NotADirectoryError"),
    (21, "IsADirectoryError"), (32, "BrokenPipeError"), (103, "ConnectionAbortedError"),
    (104, "ConnectionResetError"), (108, "BrokenPipeError"), (110, "TimeoutError"),
    (111, "ConnectionRefusedError"), (114, "BlockingIOError"), (115, "BlockingIOError")]

/-- The refusal that an error number stands for, if it has a name of its own. -/
def ofErrorNumber? (n : Int) : Option String :=
  errorNumbers.lookup n

end Kind

/-- What a fault says of itself. -/
structure Head where
  kind : Kind
  args : List Datum
  notes : List String
  deriving DecidableEq, Repr, Inhabited

/-- How a fault is linked to the one that is told before it. -/
inductive Link where
  /-- The earlier fault is the direct cause. -/
  | cause
  /-- The earlier fault was being handled. -/
  | context
  deriving DecidableEq, Repr

end Fault

/-- **A fault**, with the faults it is linked to. A cause hides the context; a context
may also be hidden without a cause. -/
inductive Fault where
  | alone (head : Fault.Head)
  | caused (head : Fault.Head) (cause : Fault)
  | during (head : Fault.Head) (context : Fault) (isHidden : Bool)
  | causedDuring (head : Fault.Head) (cause context : Fault)
  deriving DecidableEq, Repr, Inhabited

namespace Fault

/-! ### Building -/

/-- A fault with one text and no earlier fault. -/
def ofText (kind : Kind) (text : String) : Fault :=
  .alone ⟨kind, [.text text], []⟩

/-- A fault without arguments and without earlier fault. -/
def bare (kind : Kind) : Fault :=
  .alone ⟨kind, [], []⟩

/-- A fault with its links. `cause` is `some none` when it is said that there is no
cause, which hides the context. -/
def link (head : Head) (cause : Option (Option Fault)) (context : Option Fault) : Fault :=
  match cause, context with
  | some (some cause), some context => .causedDuring head cause context
  | some (some cause), none => .caused head cause
  | some none, some context => .during head context true
  | none, some context => .during head context false
  | _, none => .alone head

/-- The fault of a number that has too many digits to be written. -/
def tooManyDigits : Fault :=
  .ofText Kind.value ("Exceeds the limit (" ++ toString digitLimit ++ " digits) for integer string "
    ++ "conversion; use sys.set_int_max_str_digits() to increase the limit")

/-- A text that is to be written: all that can be wrong with it is that a number in it has
too many digits. -/
def written (text? : Option String) : Except Fault String :=
  match text? with
  | some text => .ok text
  | none => .error tooManyDigits

/-! ### Looking -/

/-- What the fault says of itself. -/
def head : Fault → Head
  | .alone head => head
  | .caused head _ => head
  | .during head _ _ => head
  | .causedDuring head _ _ => head

/-- Whether no handler takes the fault. -/
def isDeparture (fault : Fault) : Bool :=
  fault.head.kind.isDeparture

/-! ### Words -/

/-- The file names of a refusal by the system in words. An absent first name means that
no file is concerned, whatever the second one says; what stands between the two is not
for every system. A refusal to wait takes a number in place of a file. -/
def systemFiles? (kind : Kind) : List Datum → Option String
  | [] => some ""
  | .null :: _ => some ""
  | file :: rest => do
    if kind = .system "BlockingIOError" ∧ file.isNumber then return ""
    let first ← file.shown?
    match rest with
    | [] | [_] | _ :: .null :: _ => return ": " ++ first
    | _ :: other :: _ => return ": " ++ first ++ " -> " ++ (← other.shown?)

/-- A refusal by the system in words: number, text, and up to two file names. -/
def systemText? (kind : Kind) (number text : Datum) (files : List Datum) : Option String := do
  return "[Errno " ++ (← number.plain?) ++ "] " ++ (← text.plain?) ++ (← systemFiles? kind files)

/-- The fault that there is instead of a text when the character at fault would stand in
front of the text. The reporter comes to grief over it; what it says also names the place
in memory, which is left out here. -/
def misplaced (kind : Kind) : Fault :=
  .ofText (.named "SystemError") ("<built-in method __format__ of " ++ kind.name
    ++ " object> returned a result with an exception set")

/-- Which characters of a text are at fault: those from `first` up to `last`, that one
not included. Only a single character is shown. -/
def charactersText (kind : Kind) (text : String) (first last : Int) : Except Fault String :=
  if last = first + 1 ∧ first < 0 then .error (misplaced kind)
  else
    match if last = first + 1 then text.toList[first.toNat]? else none with
    | some c =>
      .ok ("character '" ++ String.ofList (Quoted.numbered c) ++ "' in position " ++ toString first)
    | none =>
      .ok ("characters in position " ++ toString first ++ "-"
        ++ toString (if fitsWord (last - 1) then last - 1 else -last - 1))

/-- All arguments in parentheses. -/
def parenthesised? (args : List Datum) : Option String := do
  return "(" ++ ", ".intercalate (← Datum.shownAll? args) ++ ")"

/-- The passage that a fault in the form of a text points to. It is the second of two
arguments. -/
def Head.passage? (h : Head) : Option Passage :=
  match h.kind.root, h.args with
  | .malformed _, [_, passage] => Passage.ofDatum? passage
  | _, _ => none

/-- **What the arguments of a fault say**: nothing if there are none, the argument if there
is one, and all of them in parentheses if there are more. A missing key stands in quotes; a
refusal by the system and faults of texts have forms of their own. -/
def Head.saying (h : Head) : Except Fault String :=
  match h.kind.root, h.args with
  | .malformed _, args => do
    return (← written (args.headD .null).plain?) ++ (h.passage?.map Passage.suffix).getD ""
  | .unencodable, [.text encoding, .text text, first, last, .text reason] => do
    let which ← charactersText h.kind text (first.number?.getD 0) (last.number?.getD 0)
    return "'" ++ encoding ++ "' codec can't encode " ++ which ++ ": " ++ reason
  | .untranslatable, [.text text, first, last, .text reason] => do
    let which ← charactersText h.kind text (first.number?.getD 0) (last.number?.getD 0)
    return "can't translate " ++ which ++ ": " ++ reason
  | _, [] => .ok ""
  | .key, [key] => written key.shown?
  | _, [arg] => written arg.plain?
  | .system _, number :: text :: files =>
    written (if files.length ≤ 3 then systemText? h.kind number text files
      else parenthesised? h.args)
  | _, args => written (parenthesised? args)

/-- **The text of a fault**: what its arguments say, unless its kind has words of its own. -/
def Head.text (h : Head) : Except Fault String :=
  match h.kind.wording with
  | .inherited => h.saying
  | .own text => .ok text
  | .refused name text => .error (.ofText (.ofName name) text)

/-- The text of a fault. -/
def text (fault : Fault) : Except Fault String :=
  fault.head.text

end Fault
end CertChain
