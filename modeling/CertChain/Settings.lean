import CertChain.Datum
import CertChain.Format
import CertChain.Log
import CertChain.Settings.DotEnv
import CertChain.Text.Utf

/-!
# Settings

Three settings: from which level on the log is written, whether certificates are read
strictly, and which format they are converted to unless something else is asked for.

A setting may be given in four places. From the highest to the lowest they are the
caller's own choice, the environment, the settings file, and the value it has when
nobody says anything. The highest place that gives a setting decides it
(`Settings.given`), and only then is the value looked at; what stands in a lower place
does not matter, not even when it is wrong. Every setting is looked at, and all problems
are reported together (`Settings.load`).

The names of settings are compared without regard to letter case, and in environment and
file they begin with `ATTEST_CERT_`.
-/

namespace CertChain

/-- What can be set. -/
inductive Setting where
  | logLevel
  | strictDer
  | outputFormat
  deriving DecidableEq, Repr, Inhabited

namespace Setting

/-- All settings, in the order in which problems are reported. -/
def all : List Setting := [.logLevel, .strictDer, .outputFormat]

/-- The name of a setting. -/
def name : Setting → String
  | .logLevel => "log_level"
  | .strictDer => "strict_der"
  | .outputFormat => "output_format"

/-- The name of a setting in the environment, in small letters. -/
def environmentName (s : Setting) : String :=
  "attest_cert_" ++ s.name

end Setting

/-! ### Problems -/

/-- Why a value is none for a setting. -/
inductive Unsuited where
  | notText
  | unknownLevel (text : String)
  | notTruth
  | unreadableTruth
  | notFormat
  deriving DecidableEq, Repr

namespace Unsuited

/-- The name of the kind of problem. -/
def kindName : Unsuited → String
  | .notText => "string_type"
  | .unknownLevel _ => "value_error"
  | .notTruth => "bool_type"
  | .unreadableTruth => "bool_parsing"
  | .notFormat => "enum"

/-- The problem in words. -/
def text : Unsuited → String
  | .notText => "Input should be a valid string"
  | .unknownLevel text => "Value error, Unknown log level " ++ quoted text
  | .notTruth => "Input should be a valid boolean"
  | .unreadableTruth => "Input should be a valid boolean, unable to interpret input"
  | .notFormat => "Input should be 'pem' or 'der'"

end Unsuited

/-- A setting whose value is none for it. -/
structure Problem where
  setting : Setting
  reason : Unsuited
  value : Datum
  deriving Repr

namespace Problem

/-- A long text cut in the middle, as reports show values: at most 50 octets stay
whole, and of a longer text the first 25 and the last 24. No character is cut in two. -/
def abbreviate (text : String) : String :=
  let cs := text.toList
  if text.utf8ByteSize ≤ 50 then text
  else
    let front := fits 25 cs
    let back := (fits 24 cs.reverse).reverse
    String.ofList front ++ "..." ++ String.ofList back
where
  /-- The longest beginning that fits in `room` octets. -/
  fits (room : Nat) : List Char → List Char
    | [] => []
    | c :: rest => if c.utf8Size ≤ room then c :: fits (room - c.utf8Size) rest else []

/-- The value as it stands in a report. One that cannot be written is named by its kind. -/
def shownValue (p : Problem) : String :=
  abbreviate (p.value.shown?.getD ("<unprintable " ++ p.value.kindName ++ " object>"))

/-- A problem as it stands in a report. -/
def text (p : Problem) : String :=
  p.setting.name ++ "\n  " ++ p.reason.text ++ " [type=" ++ p.reason.kindName
    ++ ", input_value=" ++ p.shownValue ++ ", input_type=" ++ p.value.kindName ++ "]"

/-- All problems in a report. -/
def report (problems : List Problem) : String :=
  let count := toString problems.length ++
    if problems.length = 1 then " validation error" else " validation errors"
  "\n".intercalate ((count ++ " for AppSettings") :: problems.map text)

end Problem

/-! ### Values -/

/-- The name of a level, from a text in any letter case with blanks around it. -/
def readLevel (value : Datum) : Except Unsuited String :=
  match value with
  | .text text =>
    let name := capitals (strip text)
    if (thresholds.lookup name).isSome then .ok name else .error (.unknownLevel text)
  | _ => .error .notText

/-- The words for true, in small letters. -/
def trueWords : List String := ["1", "true", "yes", "y", "on", "t"]

/-- The words for false, in small letters. -/
def falseWords : List String := ["0", "false", "no", "n", "off", "f"]

/-- A truth value, from itself, a word for it, or a number. A number that fits no word
is not even taken for an attempt at one. -/
def readTruth (value : Datum) : Except Unsuited Bool :=
  match value with
  | .bool b => .ok b
  | .int n =>
    if n = 1 then .ok true
    else if n = 0 then .ok false
    else if fitsWord n then .error .unreadableTruth
    else .error .notTruth
  | .text text =>
    if trueWords.contains (smalls text) then .ok true
    else if falseWords.contains (smalls text) then .ok false
    else .error .unreadableTruth
  | .null | .list _ => .error .notTruth

/-- A format, from its exact name. -/
def readFormat (value : Datum) : Except Unsuited Format :=
  match value with
  | .text text =>
    match Format.ofName? text with
    | some format => .ok format
    | none => .error .notFormat
  | _ => .error .notFormat

/-! ### Sources -/

/-- A place where settings may be given. -/
abbrev Source := Setting → Option Datum

namespace Source

/-- What the caller chooses, by name. -/
def ofChoices (choices : List (String × Datum)) : Source := fun s =>
  match choices.lookup s.name with
  | some value => some value
  | none => (choices.find? fun choice => smalls choice.1 = s.name).map Prod.snd

/-- The environment. Of two names that differ in letter case only, the later counts. -/
def ofEnvironment (environment : List (String × String)) : Source := fun s =>
  (environment.reverse.find? fun entry => smalls entry.1 = s.environmentName).map fun entry =>
    .text entry.2

/-- A settings file. A name without a value does not give the setting. -/
def ofTable (table : DotEnv.Table) : Source := fun s =>
  match table.reverse.find? fun entry => smalls entry.1 = s.environmentName with
  | some (_, some value) => some (.text value)
  | _ => none

end Source

/-! ### Settings -/

/-- **The settings** of the program. The level is the name of one. -/
structure Settings where
  logLevel : String
  strictDer : Bool
  outputFormat : Format
  deriving DecidableEq, Repr

/-- The least severity that the log shows. -/
def Settings.threshold (settings : Settings) : Nat :=
  (thresholds.lookup settings.logLevel).getD usualThreshold

/-- Why there are no settings. -/
inductive SettingsError where
  /-- The settings file is no text. -/
  | notText (fault : Utf8.Fault)
  /-- Some values are wrong. -/
  | invalid (problems : List Problem)
  deriving Repr

namespace Settings

/-- The value that the highest place gives. -/
def given (sources : List Source) (s : Setting) : Option Datum :=
  sources.findSome? fun source => source s

/-- A setting as it is when nobody gives it, and else as its value is read. -/
def one (sources : List Source) (s : Setting) (usual : α) (read : Datum → Except Unsuited α) :
    Except Problem α :=
  match given sources s with
  | none => .ok usual
  | some value =>
    match read value with
    | .ok a => .ok a
    | .error reason => .error ⟨s, reason, value⟩

/-- The problem with a setting, if there is one. -/
def problemOf (result : Except Problem α) : List Problem :=
  match result with
  | .ok _ => []
  | .error p => [p]

/-- **The settings that sources give**, or all problems with them. -/
def ofSources (sources : List Source) : Except (List Problem) Settings :=
  let level := one sources .logLevel "INFO" readLevel
  let strict := one sources .strictDer false readTruth
  let format := one sources .outputFormat .pem readFormat
  match level, strict, format with
  | .ok level, .ok strict, .ok format => .ok ⟨level, strict, format⟩
  | _, _, _ => .error (problemOf level ++ problemOf strict ++ problemOf format)

/-- The bindings of a settings file, if there is one. -/
def tableOf (environment : List (String × String)) (file : Option Bytes) :
    Except Utf8.Fault DotEnv.Table :=
  match file with
  | none => .ok []
  | some octets => do
    return DotEnv.resolve environment (DotEnv.bindings (← Utf8.decode octets))

/-- **The settings**, from the caller's choices, the environment and the settings
file. -/
def load (choices : List (String × Datum)) (environment : List (String × String))
    (file : Option Bytes) : Except SettingsError Settings :=
  match tableOf environment file with
  | .error fault => .error (.notText fault)
  | .ok table =>
    match ofSources [.ofChoices choices, .ofEnvironment environment, .ofTable table] with
    | .ok settings => .ok settings
    | .error problems => .error (.invalid problems)

end Settings
end CertChain
