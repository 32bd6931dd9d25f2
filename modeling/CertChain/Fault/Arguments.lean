import CertChain.Fault

/-!
# Arguments of faults

A fault of most kinds takes any arguments. Some kinds are particular: they want so many
of them, or texts and numbers in certain places, or keep only some of what they are
given. `Fault.settle` says what is kept, and which fault arises instead when the
arguments are not right.
-/

namespace CertChain
namespace Fault

/-! ### Shapes -/

/-- What an argument has to be. -/
inductive Shape where
  /-- A text. -/
  | text
  /-- A position in a text, which fits a word. -/
  | position
  /-- Anything. -/
  | any
  deriving DecidableEq, Repr

/-- The name of the kind of a datum where a text is missing. -/
def shortKindName : Datum → String
  | .null => nullText
  | d => d.kindName

/-- Checks the argument at `index`, counted from 1. -/
def Shape.check (shape : Shape) (index : Nat) (arg : Datum) : Except Fault Unit :=
  match shape with
  | .any => .ok ()
  | .text =>
    match arg with
    | .text _ => .ok ()
    | _ => .error (ofText Kind.type ("argument " ++ toString index ++ " must be str, not "
        ++ shortKindName arg))
  | .position =>
    match arg.number? with
    | none => .error (ofText Kind.type ("'" ++ arg.kindName
        ++ "' object cannot be interpreted as an integer"))
    | some n =>
      if fitsWord n then .ok ()
      else .error (ofText Kind.overflow "Python int too large to convert to C ssize_t")

/-- Checks arguments one by one, the first at `index`. -/
def checkEach (index : Nat) : List Shape → List Datum → Except Fault Unit
  | shape :: shapes, arg :: args => do
    shape.check index arg
    checkEach (index + 1) shapes args
  | _, _ => .ok ()

/-- Checks the number of arguments and each of them. -/
def checkShapes (shapes : List Shape) (args : List Datum) : Except Fault Unit :=
  if args.length = shapes.length then checkEach 1 shapes args
  else .error (ofText Kind.type ("function takes exactly " ++ toString shapes.length
    ++ " arguments (" ++ toString args.length ++ " given)"))

/-! ### Particular kinds -/

/-- Refusals by the system take a number in place of a file if they ask for patience; it
has to fit a word. -/
def checkProgress (kind : Kind) (rest : List Datum) : Except Fault Unit :=
  match (rest.head?.bind Datum.number?) with
  | none => .ok ()
  | some n =>
    if kind = .system "BlockingIOError" ∧ rest.length ≤ 3 ∧ ¬ fitsWord n then
      .error (ofText Kind.value "cannot fit 'int' into an index-sized integer")
    else .ok ()

/-- The name of a refusal by the system with two to five arguments: the one that belongs to
its error number, unless it has a name that says more already. -/
def systemName (name : String) (number : Datum) (rest : List Datum) : String :=
  if name = "OSError" ∧ rest.length ≤ 3 then
    (number.number?.bind Kind.ofErrorNumber?).getD name
  else name

/-- A refusal by the system keeps its arguments, and may find a better name. -/
def settleSystem (name : String) (args : List Datum) : Except Fault (Kind × List Datum) :=
  match args with
  | number :: _ :: rest => do
    let kind := .system (systemName name number rest)
    checkProgress kind rest
    return (kind, args)
  | _ => .ok (.system name, args)

/-- An unknown algorithm has one or two arguments and keeps the first. -/
def settleAlgorithm : List Datum → Except Fault (List Datum)
  | [] =>
    .error (ofText Kind.type
      "UnsupportedAlgorithm.__init__() missing 1 required positional argument: 'message'")
  | message :: rest =>
    if rest.length ≤ 1 then .ok [message]
    else
      .error (ofText Kind.type ("UnsupportedAlgorithm.__init__() takes from 2 to 3 positional "
        ++ "arguments but " ++ toString (rest.length + 2) ++ " were given"))

/-- A fault in the form of a text with two arguments takes the second one for a passage:
of four parts, or of six if it says where the passage ends. -/
def checkPassage : List Datum → Except Fault Unit
  | [_, passage] =>
    match Passage.parts? passage with
    | none => .error (ofText Kind.type ("'" ++ passage.kindName ++ "' object is not iterable"))
    | some parts =>
      if parts.length < 4 then
        .error (ofText Kind.type ("function takes at least 4 arguments ("
          ++ toString parts.length ++ " given)"))
      else if 6 < parts.length then
        .error (ofText Kind.type ("function takes at most 6 arguments ("
          ++ toString parts.length ++ " given)"))
      else if parts.length = 5 then
        .error (ofText Kind.type "end_offset must be provided when end_lineno is provided")
      else .ok ()
  | _ => .ok ()

/-- Why plain data are no group of faults: the members would have to be faults, and data
are none. -/
def groupFault : List Datum → Fault
  | [.text _, members] =>
    match Passage.parts? members with
    | none => ofText Kind.type "second argument (exceptions) must be a sequence"
    | some [] => ofText Kind.value "second argument (exceptions) must be a non-empty sequence"
    | some _ => ofText Kind.value "Item 0 of second argument (exceptions) is not an exception"
  | [message, _] =>
    ofText Kind.type ("BaseExceptionGroup.__new__() argument 1 must be str, not "
      ++ shortKindName message)
  | args =>
    ofText Kind.type ("BaseExceptionGroup.__new__() takes exactly 2 arguments ("
      ++ toString args.length ++ " given)")

/-! ### All kinds -/

/-- The arguments that are kept under the rules of a kind. Refusals by the system have their
rule elsewhere. -/
def keep (root : Kind) (args : List Datum) : Except Fault (List Datum) :=
  match root with
  | .unsupportedAlgorithm => settleAlgorithm args
  | .malformed _ => do
    checkPassage args
    return args
  | .unencodable => do
    checkShapes [.text, .text, .position, .position, .text] args
    return args
  | .untranslatable => do
    checkShapes [.text, .position, .position, .text] args
    return args
  | .undecodable => do
    checkShapes [.text, .any, .position, .position, .text] args
    throw (ofText Kind.type ("a bytes-like object is required, not '"
      ++ (args.getD 1 .null).kindName ++ "'"))
  | .group _ => .error (groupFault args)
  | _ => .ok args

/-- **Kind and arguments as they are kept**, or the fault that arises instead. Only a refusal
by the system may turn out to be of another kind, and kinds that derive from it never do. -/
def settle (kind : Kind) (args : List Datum) : Except Fault (Kind × List Datum) :=
  match kind with
  | .system name => settleSystem name args
  | _ => do return (kind, ← keep kind.root args)

end Fault
end CertChain
