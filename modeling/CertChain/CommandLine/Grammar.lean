import CertChain.Text.Digit
import CertChain.Text.Quoted

/-!
# Grammars of command lines

A command line is a list of words. Some of them are options, which have names that begin
with one dash (and are one letter long) or with two; some options have a value. The other
words are operands. A `Grammar` lists the options, and the names by which messages call the
operands.

How words are read:

* A long name may be cut short as long as one option only begins that way, and may have
  its value behind an equals sign.
* A short name may have its value, or further short names, directly behind it.
* The word `--` ends the options. It is no operand itself, unless it comes again.
* A word with a dash in front that is no option is left over, but a negative number and
  a word with a space in it are operands.
* Some options end the reading at once (`Kind.final`), whatever else may be wrong behind
  them.

`Grammar.scan` reads all words by a grammar. `Grammar.scanHead` reads up to the first
operand, behind which another grammar is in force.
-/

namespace CertChain
namespace CommandLine

/-! ### Grammars -/

/-- What follows an option. -/
inductive Kind where
  /-- Nothing; the option is the end. -/
  | final
  /-- Nothing. -/
  | plain
  /-- A value. -/
  | valued
  /-- A value out of a list. -/
  | choice (values : List String)
  deriving DecidableEq, Repr

/-- Whether a value follows. -/
def Kind.hasValue : Kind → Bool
  | .final | .plain => false
  | .valued | .choice _ => true

/-- An option with its names. -/
structure Rule (σ : Type) where
  option : σ
  names : List String
  kind : Kind
  deriving Repr

/-- How messages call an option. -/
def Rule.title {σ : Type} (rule : Rule σ) : String :=
  "/".intercalate rule.names

/-- **A grammar.** -/
structure Grammar (σ : Type) where
  program : String
  rules : List (Rule σ)
  operands : List String
  deriving Repr

/-- What is wrong with a command line. -/
inductive Misuse where
  /-- An option is cut so short that several begin that way. -/
  | ambiguous (word : String) (names : List String)
  /-- An option has a value that should have none. -/
  | needlessValue (option value : String)
  /-- An option has no value that should have one. -/
  | missingValue (option : String)
  /-- A value is not in the list. -/
  | unknownChoice (argument value : String) (choices : List String)
  /-- There are too few operands. -/
  | missingOperands (names : List String)
  /-- Words are left over. -/
  | leftOver (words : List String)
  deriving DecidableEq, Repr

/-- The words for it. -/
def Misuse.text : Misuse → String
  | .ambiguous word names =>
    "ambiguous option: " ++ word ++ " could match " ++ ", ".intercalate names
  | .needlessValue option value =>
    "argument " ++ option ++ ": ignored explicit argument " ++ quoted value
  | .missingValue option => "argument " ++ option ++ ": expected one argument"
  | .unknownChoice argument value choices =>
    "argument " ++ argument ++ ": invalid choice: " ++ quoted value ++ " (choose from "
      ++ ", ".intercalate (choices.map quoted) ++ ")"
  | .missingOperands names =>
    "the following arguments are required: " ++ ", ".intercalate names
  | .leftOver words => "unrecognized arguments: " ++ " ".intercalate words

/-- Why the reading of a command line ends early. -/
inductive Stop (σ : Type) where
  /-- The option is the end. -/
  | final (option : σ)
  /-- Something is wrong. -/
  | misuse (program : String) (misuse : Misuse)
  deriving DecidableEq, Repr

/-! ### Words -/

/-- A value directly behind the name of an option, and whether an equals sign parts
them. -/
structure Attached where
  equals : Bool
  text : List Char
  deriving DecidableEq, Repr

/-- What a word is to a grammar. -/
inductive Role (σ : Type) where
  | operand
  | separator
  | unknown
  | option (rule : Rule σ) (isShort : Bool) (attached : Option Attached)
  deriving Repr

/-- A word with its role. -/
structure Word (σ : Type) where
  text : String
  role : Role σ
  deriving Repr

/-- The word that ends the options. -/
def separator : String := "--"

/-- Whether a word is a negative number: digits behind a dash, with at most one point,
which digits follow. A line feed may end it. -/
def isNegative (word : List Char) : Bool :=
  match if word.getLast? = some '\n' then word.dropLast else word with
  | '-' :: digits =>
    match digits.dropWhile isDecimalDigit with
    | [] => !digits.isEmpty
    | '.' :: places => !places.isEmpty && places.all isDecimalDigit
    | _ => false
  | _ => false

/-- The role of a word that has a dash in front and is no option. -/
def Role.ofOther {σ : Type} (word : List Char) : Role σ :=
  if isNegative word || word.contains ' ' then .operand else .unknown

namespace Grammar

variable {σ : Type} (g : Grammar σ)

/-- The option with a name. -/
def named? (name : String) : Option (Rule σ) :=
  g.rules.find? fun rule => rule.names.contains name

/-- All names that begin with `start`, with their options. -/
def beginning (start : List Char) : List (String × Rule σ) :=
  g.rules.flatMap fun rule =>
    (rule.names.filter fun name => start.isPrefixOf name.toList).map fun name => (name, rule)

/-- **The role of a word** before the options end. -/
def role (word : String) : Except Misuse (Role σ) :=
  match word.toList with
  | '-' :: second :: rest =>
    let isShort := second != '-'
    let name := (second :: rest).takeWhile (· ≠ '=')
    let attached : Option Attached :=
      match (second :: rest).dropWhile (· ≠ '=') with
      | [] => none
      | _ :: text => some ⟨true, text⟩
    match g.named? word with
    | some rule => .ok (.option rule isShort none)
    | none =>
      match attached.bind fun _ => g.named? (String.ofList ('-' :: name)) with
      | some rule => .ok (.option rule isShort attached)
      | none =>
        if isShort then
          match g.named? (String.ofList ['-', second]) with
          | some rule => .ok (.option rule true (some ⟨false, rest⟩))
          | none => .ok (.ofOther word.toList)
        else
          match g.beginning ('-' :: name) with
          | [] => .ok (.ofOther word.toList)
          | [(_, rule)] => .ok (.option rule false attached)
          | several => .error (.ambiguous word (several.map Prod.fst))
  | _ => .ok .operand

/-- The words of a command line with their roles. -/
def words : List String → Except Misuse (List (Word σ))
  | [] => .ok []
  | word :: rest =>
    if word = separator then .ok (⟨word, .separator⟩ :: rest.map fun word => ⟨word, .operand⟩)
    else do
      let role ← g.role word
      return ⟨word, role⟩ :: (← words rest)

/-! ### Options -/

/-- What one word gives: options with their values, what is left of the word, and whether
the next word is the value of the last option. -/
structure Spelled (σ : Type) where
  given : List (Rule σ × Option String)
  left : List String
  usesNext : Bool
  deriving Repr

/-- An option with nothing attached. -/
def spellBare (next : Option String) (rule : Rule σ) : Except Misuse (Spelled σ) :=
  if rule.kind.hasValue then
    match next with
    | some value => .ok ⟨[(rule, some value)], [], true⟩
    | none => .error (.missingValue rule.title)
  else .ok ⟨[(rule, none)], [], false⟩

/-- A short option with `text` behind it. -/
def spellShort (next : Option String) (rule : Rule σ) (equals : Bool) (text : List Char) :
    Except Misuse (Spelled σ) :=
  if rule.kind.hasValue then .ok ⟨[(rule, some (String.ofList text))], [], false⟩
  else
    match text with
    | [] => .error (.needlessValue rule.title "")
    | letter :: behind =>
      if equals ∨ letter = '-' then
        .error (.needlessValue rule.title (String.ofList (letter :: behind)))
      else
        match g.named? (String.ofList ['-', letter]) with
        | none => .ok ⟨[(rule, none)], [String.ofList ('-' :: letter :: behind)], false⟩
        | some other => do
          let spelled ←
            match behind with
            | [] => spellBare next other
            | '=' :: value => spellShort next other true value
            | c :: more => spellShort next other false (c :: more)
          return ⟨(rule, none) :: spelled.given, spelled.left, spelled.usesNext⟩
termination_by text.length
decreasing_by all_goals (simp only [List.length_cons]; omega)

/-- A long option with `text` behind an equals sign. -/
def spellLong (rule : Rule σ) (text : List Char) : Except Misuse (Spelled σ) :=
  if rule.kind.hasValue then .ok ⟨[(rule, some (String.ofList text))], [], false⟩
  else .error (.needlessValue rule.title (String.ofList text))

/-- What the word of an option gives. -/
def spell (next : Option String) (rule : Rule σ) (isShort : Bool) :
    Option Attached → Except Misuse (Spelled σ)
  | none => spellBare next rule
  | some ⟨equals, text⟩ =>
    if isShort then g.spellShort next rule equals text else spellLong rule text

/-! ### Reading -/

/-- What has been read so far. An operand may be nothing at all: that is what becomes of
the word `--` when it comes again. -/
structure Reading (σ : Type) where
  given : List (σ × Option String)
  operands : List (Option String)
  left : List String
  deriving Repr

namespace Reading

/-- Nothing has been read. -/
def empty : Reading σ := ⟨[], [], []⟩

/-- A word is left over. -/
def leave (r : Reading σ) (word : String) : Reading σ :=
  { r with left := r.left ++ [word] }

/-- An operand. -/
def add (r : Reading σ) (operand : Option String) : Reading σ :=
  { r with operands := r.operands ++ [operand] }

/-- The last value that is given for an option. -/
def value? [DecidableEq σ] (r : Reading σ) (option : σ) : Option String :=
  (r.given.reverse.find? fun entry => entry.1 = option).bind Prod.snd

/-- Whether an option is given. -/
def has [DecidableEq σ] (r : Reading σ) (option : σ) : Bool :=
  r.given.any fun entry => entry.1 = option

end Reading

/-- The reading goes wrong. -/
def stop (misuse : Misuse) : Stop σ :=
  .misuse g.program misuse

/-- One option with its value. -/
def give (r : Reading σ) (rule : Rule σ) (value : Option String) :
    Except (Stop σ) (Reading σ) :=
  match rule.kind, value with
  | .final, _ => .error (.final rule.option)
  | .choice values, some value =>
    if values.contains value then .ok { r with given := r.given ++ [(rule.option, some value)] }
    else .error (g.stop (.unknownChoice rule.title value values))
  | _, value => .ok { r with given := r.given ++ [(rule.option, value)] }

/-- The options of one word, from left to right. Says also whether the next word belongs
to them. -/
def take (r : Reading σ) (next : Option (Word σ)) (rule : Rule σ) (isShort : Bool)
    (attached : Option Attached) : Except (Stop σ) (Reading σ × Bool) := do
  let value :=
    match next with
    | some ⟨text, .operand⟩ => some text
    | _ => none
  let spelled ← (g.spell value rule isShort attached).mapError g.stop
  let r ← spelled.given.foldlM (fun r (rule, value) => g.give r rule value)
    (spelled.left.foldl Reading.leave r)
  return (r, spelled.usesNext)

/-- What is behind a word, when the next word may belong to it. -/
def behind {α : Type} (usesNext : Bool) (rest : List α) : List α :=
  if usesNext then rest.tail else rest

theorem length_behind_le {α : Type} (usesNext : Bool) (rest : List α) :
    (behind usesNext rest).length ≤ rest.length := by
  cases usesNext <;> simp [behind]

/-- Whether operands are missing. -/
def isOpen (r : Reading σ) : Bool :=
  r.operands.length < g.operands.length

/-- The operand that a word behind another operand is. -/
def operandOf (word : String) : Option String :=
  if word = separator then none else some word

/-- **Reads words**, options and operands in any order. A separator goes along with the
operand in front of it, and if there is none with the operand behind it; it is left over
when that operand is. -/
def scan (r : Reading σ) (ws : List (Word σ)) : Except (Stop σ) (Reading σ) :=
  match ws with
  | [] => .ok r
  | ⟨text, .unknown⟩ :: rest => scan (r.leave text) rest
  | ⟨_, .option rule isShort attached⟩ :: rest => do
    let (r, usesNext) ← g.take r rest.head? rule isShort attached
    scan r (behind usesNext rest)
  | ⟨text, .operand⟩ :: ⟨bar, .separator⟩ :: rest =>
    if g.isOpen r then scan (r.add (operandOf text)) rest
    else scan ((r.leave text).leave bar) rest
  | ⟨text, .operand⟩ :: rest =>
    if g.isOpen r then scan (r.add (operandOf text)) rest else scan (r.leave text) rest
  | ⟨bar, .separator⟩ :: ⟨text, .operand⟩ :: rest =>
    if g.isOpen r then scan (r.add (some text)) rest
    else scan ((r.leave bar).leave text) rest
  | ⟨bar, .separator⟩ :: rest => scan (r.leave bar) rest
termination_by ws.length
decreasing_by
  all_goals
    try have := length_behind_le usesNext rest
    simp only [List.length_cons]
    omega

/-- **Reads words up to the first operand**, and gives also that and all behind it. -/
def scanHead (r : Reading σ) (ws : List (Word σ)) :
    Except (Stop σ) (Reading σ × List String) :=
  match ws with
  | [] => .ok (r, [])
  | ⟨text, .unknown⟩ :: rest => scanHead (r.leave text) rest
  | ⟨_, .option rule isShort attached⟩ :: rest => do
    let (r, usesNext) ← g.take r rest.head? rule isShort attached
    scanHead r (behind usesNext rest)
  | [⟨bar, .separator⟩] => .ok (r.leave bar, [])
  | ws => .ok (r, ws.map Word.text)
termination_by ws.length
decreasing_by
  all_goals
    try have := length_behind_le usesNext rest
    simp only [List.length_cons]
    omega

/-- **Reads a command line** whose operands must all be there. Words may be left over. -/
def read (line : List String) : Except (Stop σ) (Reading σ) := do
  let r ← g.scan .empty (← (g.words line).mapError g.stop)
  if g.isOpen r then throw (g.stop (.missingOperands (g.operands.drop r.operands.length)))
  return r

/-- **Reads a command line** up to the first operand, which must be there. -/
def readHead (line : List String) : Except (Stop σ) (Reading σ × String × List String) := do
  match ← g.scanHead .empty (← (g.words line).mapError g.stop) with
  | (r, first :: rest) => return (r, first, rest)
  | (_, []) => throw (g.stop (.missingOperands g.operands))

end Grammar
end CommandLine
end CertChain
