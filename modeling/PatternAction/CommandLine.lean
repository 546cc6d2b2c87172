import PatternAction.Dialogue
import PatternAction.Phases
import PatternAction.Script.Source

/-!
The command: its arguments, where it takes the script and the records from, and what it prints.
-/

set_option autoImplicit false
set_option relaxedAutoImplicit false

namespace PatternAction.CommandLine

/-! ## Failures -/

inductive Misuse where
  | argumentMissing (option : String)
  | badAssignment (text : String)
  | unknownOption (text : String)
  | extraFile (path : String)
  | noProgram
deriving DecidableEq, Repr

def Misuse.message : Misuse → String
  | .argumentMissing option => "option " ++ option ++ " requires an argument"
  | .badAssignment text => "invalid variable assignment: " ++ text
  | .unknownOption text => "unknown option: " ++ text
  | .extraFile path => "only one data file is accepted, got extra " ++ path
  | .noProgram => "no program provided"

inductive Failure where
  | misuse (cause : Misuse)
  | file (fault : FileFault)
  | report (diagnostic : Report)
  | aborted
  | outOfFuel
deriving DecidableEq, Repr

def Failure.message : Failure → String
  | .misuse cause => cause.message
  | .file fault => fault.message
  | .report diagnostic => diagnostic.render
  | .aborted => "Formatting argument out of range"
  | .outOfFuel => "out of fuel"

/-! ## Arguments -/

inductive Item where
  | separator (text : String)
  | assignment (name text : String)
  | scriptFile (path : String)
  | operand (text : String)
deriving DecidableEq, Repr

/-- How the arguments end: all of them are understood, or one of them stops the reading. -/
inductive Ending where
  | complete
  | help
  | version
  | misuse (cause : Misuse)
deriving DecidableEq, Repr

def splitAssignment? : List Char → Option (List Char × List Char)
  | [] => none
  | c :: cs =>
    if c = '=' then some ([], cs)
    else (splitAssignment? cs).map fun (name, text) => (c :: name, text)

def assignment? (text : String) : Option Item :=
  (splitAssignment? text.toList).map fun (name, value) =>
    .assignment (String.ofList name) (String.ofList value)

/-- What an argument says that needs no other: a separator behind its mark, or an operand. -/
def single (arg : String) : Except Misuse Item :=
  match arg.toList with
  | '-' :: 'F' :: text => .ok (.separator (String.ofList text))
  | '-' :: _ :: _ => .error (.unknownOption arg)
  | _ => .ok (.operand arg)

def items : List String → List Item × Ending
  | [] => ([], .complete)
  | "-F" :: [] => ([], .misuse (.argumentMissing "-F"))
  | "-F" :: text :: args =>
    let (rest, ending) := items args
    (.separator text :: rest, ending)
  | "-v" :: [] => ([], .misuse (.argumentMissing "-v"))
  | "-v" :: text :: args =>
    match assignment? text with
    | some item =>
      let (rest, ending) := items args
      (item :: rest, ending)
    | none => ([], .misuse (.badAssignment text))
  | "-f" :: [] => ([], .misuse (.argumentMissing "-f"))
  | "-f" :: path :: args =>
    let (rest, ending) := items args
    (.scriptFile path :: rest, ending)
  | arg :: args =>
    if arg = "--help" ∨ arg = "-h" then ([], .help)
    else if arg = "--version" then ([], .version)
    else match single arg with
      | .ok item =>
        let (rest, ending) := items args
        (item :: rest, ending)
      | .error cause => ([], .misuse cause)

/-! ## Options -/

structure Options where
  separator : Option String
  /-- The text of the script. -/
  script : Option String
  dataFile : Option String
  assignments : List (String × String)
deriving DecidableEq, Repr

def Options.none : Options := ⟨Option.none, Option.none, Option.none, []⟩

abbrev Command := ExceptT Failure Dialogue

namespace Command

def readFile (path : String) : Command (Except FileFault String) :=
  ExceptT.lift (.readFile path .done)

def readLine : Command (Except FileFault String) :=
  ExceptT.lift (.readLine .done)

def readInput : Command (Except FileFault String) :=
  ExceptT.lift (.readInput .done)

def tell (text : String) : Command Unit :=
  ExceptT.lift (.tell text (.done ()))

def orFail {α : Type} (failure : FileFault → Failure) : Except FileFault α → Command α
  | .ok a => pure a
  | .error f => throw (failure f)

end Command

/-- Take in what an argument says.  The first operand is the script if none is known yet, and the
next one is the data file; a script file takes the place of a script known before. -/
def Options.add (o : Options) : Item → Command Options
  | .separator text => return { o with separator := some text }
  | .assignment name text => return { o with assignments := o.assignments ++ [(name, text)] }
  | .scriptFile path => do
    let text ← Command.orFail .file (← Command.readFile path)
    return { o with script := some text }
  | .operand text =>
    if o.script.isNone then return { o with script := some text }
    else if o.dataFile.isNone then return { o with dataFile := some text }
    else throw (.misuse (.extraFile text))

def Options.addAll (o : Options) : List Item → Command Options
  | [] => return o
  | item :: rest => do (← o.add item).addAll rest

/-! ## Script and records -/

inductive Source where
  | file (path : String)
  | input
  | nothing
deriving DecidableEq, Repr

def ask (label : String) : Command String := do
  Command.tell label
  let line ← Command.orFail .file (← Command.readLine)
  return String.ofList (Text.trim line.toList)

/-- Ask the user for the script and for the data file, which may be left out. -/
def askForPaths : Command (String × Source) := do
  let path ← ask "Script file: "
  if path.isEmpty then throw (.misuse .noProgram)
  let script ← Command.orFail .file (← Command.readFile path)
  let path ← ask "Data file: "
  return (script, if path.isEmpty then .nothing else .file path)

/-- The script and the source of the records that the options name. -/
def Options.script? (o : Options) : Option (String × Source) :=
  o.script.map fun script =>
    (script, match o.dataFile with
      | some path => if path = "-" then .input else .file path
      | Option.none => .input)

def dataFailure (f : FileFault) : Failure :=
  if f.isLate then .report (.io f.message) else .file f

def readsRecords (p : Program) : Bool :=
  !p.rules.isEmpty || !p.ends.isEmpty

/-- The records from a source; the input is left alone if the script does not look at records. -/
def Source.records (p : Program) : Source → Command Records
  | .file path => do
    return .ofText (← Command.orFail dataFailure (← Command.readFile path))
  | .input => do
    if readsRecords p then return .ofText (← Command.orFail dataFailure (← Command.readInput))
    else return .none
  | .nothing => return .none

def Source.name : Source → String
  | .file path => path
  | .input | .nothing => ""

def load (script : String) : Command Program :=
  match Program.ofSource script with
  | .ok p => return p
  | .error (.fault f) => throw (.report f.report)
  | .error .outOfFuel => throw .outOfFuel

/-! ## The command -/

structure Outcome where
  status : Int
  output : String
  failure : Option Failure
deriving DecidableEq, Repr

def failureStatus : Int := 2

def abortStatus : Int := 134

def helpText : String :=
  "Usage: awk-lite [OPTIONS] 'program' [datafile]
       awk-lite [OPTIONS] -f progfile [datafile]
       awk-lite              (prompts for the script and data paths)

A small AWK dialect. Regular expressions are written between backticks.

Options:
  -F fs          Set the field separator to fs
  -v var=val     Assign value to variable before execution
  -f progfile    Read the program from file
  --version      Print version information
  --help         Print this help message

Environment:
  RUST_LOG       Diagnostic log filter, e.g. RUST_LOG=awk_lite=debug

Examples:
  awk-lite '\x7b print $1 \x7d' file.txt
  awk-lite -F: '\x7b print $1 \x7d' /etc/passwd
  awk-lite 'BEGIN \x7b print \"Hello\" \x7d'
  awk-lite '$0 ~ `pattern` \x7b print \x7d' file.txt

"

def versionText : String := "awk-lite 0.1.0\n"

variable [Platform]

def execute (fuel : Nat) (o : Options) (script : String) (source : Source) : Command Outcome := do
  let p ← load script
  let records ← source.records p
  let setup : Setup := ⟨some source.name, o.separator, o.assignments⟩
  match p.run fuel ((Machine.ofRecords records).setUp setup) with
  | .ok status m => return ⟨status, m.output, none⟩
  | .error (.fault f) m => return ⟨failureStatus, m.output, some (.report f.report)⟩
  | .error .aborted m => return ⟨abortStatus, m.output, some .aborted⟩
  | .error .outOfFuel m => return ⟨failureStatus, m.output, some .outOfFuel⟩

def command (fuel : Nat) (args : List String) : Command Outcome := do
  let (items, ending) := items args
  let o ← Options.none.addAll items
  match ending with
  | .help => return ⟨0, helpText, none⟩
  | .version => return ⟨0, versionText, none⟩
  | .misuse cause => throw (.misuse cause)
  | .complete =>
    let (script, source) ← match o.script? with
      | some given => pure given
      | none => askForPaths
    execute fuel o script source

def run (fuel : Nat) (args : List String) : Dialogue Outcome := do
  match ← (command fuel args).run with
  | .ok outcome => return outcome
  | .error f => return ⟨failureStatus, "", some f⟩

def Failure.complaint (f : Failure) : String :=
  "awk-lite: " ++ f.message ++ "\n"

end PatternAction.CommandLine
