import PatternAction.Machine
import PatternAction.Text.Case

/-!
The functions that every script can call.
-/

set_option autoImplicit false
set_option relaxedAutoImplicit false

namespace PatternAction

inductive Arity where
  | exact (count : Nat)
  | range (least most : Nat)
  | atLeast (least : Nat)
deriving DecidableEq, Repr

def Arity.accepts : Arity → Nat → Bool
  | .exact n, count => count == n
  | .range least most, count => decide (least ≤ count) && decide (count ≤ most)
  | .atLeast least, count => decide (least ≤ count)

inductive Builtin where
  | print | printf | sprintf
  | getline | next | nextfile | exit
  | gsub | sub | match | index | length | split | substr | tolower | toupper
deriving DecidableEq, Repr

namespace Builtin

def name : Builtin → String
  | .print => "print"
  | .printf => "printf"
  | .sprintf => "sprintf"
  | .getline => "getline"
  | .next => "next"
  | .nextfile => "nextfile"
  | .exit => "exit"
  | .gsub => "gsub"
  | .sub => "sub"
  | .match => "match"
  | .index => "index"
  | .length => "length"
  | .split => "split"
  | .substr => "substr"
  | .tolower => "tolower"
  | .toupper => "toupper"

def all : List Builtin :=
  [.print, .printf, .sprintf, .getline, .next, .nextfile, .exit, .gsub, .sub, .match, .index,
    .length, .split, .substr, .tolower, .toupper]

def ofName? (text : String) : Option Builtin :=
  all.find? (·.name == text)

def arity : Builtin → Arity
  | .print => .atLeast 0
  | .printf | .sprintf => .atLeast 1
  | .getline | .next | .nextfile => .exact 0
  | .exit | .length => .range 0 1
  | .gsub | .sub | .split | .substr => .range 2 3
  | .match | .index => .exact 2
  | .tolower | .toupper => .exact 1

/-! ## Texts -/

/-- How many bytes stand in front of the first place where a text occurs. -/
def offset? (needle : List Char) : List Char → Option Nat
  | [] => if needle.isEmpty then some 0 else none
  | c :: cs =>
    if needle.isPrefixOf (c :: cs) then some 0
    else (offset? needle cs).map (· + c.utf8Size)

/-- The place of the character behind so many bytes of a text, counted from one. -/
def placeBehind : List Char → Nat → Nat
  | [], _ => 1
  | c :: cs, bytes => if bytes = 0 then 1 else placeBehind cs (bytes - c.utf8Size) + 1

/-- The place of the first occurrence, counted from one; empty if there is none. -/
def indexOf (text needle : Scalar) : Scalar :=
  match offset? needle.chars text.chars with
  | some bytes => .ofCount (placeBehind text.chars bytes)
  | none => .empty

def clamp (lo hi n : Int) : Int :=
  max lo (min hi n)

def saturate (n : Int) : Int :=
  clamp (-0x8000000000000000) 0x7fffffffffffffff n

/-- Where a part of a text lies: how many characters stand in front of it, and in front of what
follows it. -/
structure Bounds where
  first : Int
  stop : Int
deriving DecidableEq, Repr

/-- The bounds of the characters at places `start`, `start + 1`, … of a text of `size` characters,
counted from one: of `length` of them, or of all.  Sums are moved into 64 bits, and bounds outside
of the text to its ends. -/
def bounds (size : Nat) (start : Int) (length : Option Int) : Bounds :=
  let ahead := saturate (start - 1)
  let first := clamp 0 size ahead
  let stop := match length with
    | some n => clamp first size (saturate (ahead + n))
    | none => size
  ⟨first, stop⟩

def window (text : List Char) (start : Int) (length : Option Int) : List Char :=
  let part := bounds text.length start length
  (text.drop part.first.toNat).take (part.stop - part.first).toNat

def exitStatus (s : Scalar) : Int :=
  s.toNumber.truncate (-0x80000000) 0x7fffffff

/-! ## Application -/

variable [Platform]

/-- An argument that has to be a scalar; one that is not given is empty. -/
def scalarArg (args : List Value) (i : Nat) : Run Scalar :=
  match args[i]? with
  | some (.scalar s) => return s
  | some (.array _) => Run.fail (.arrayArgument (i + 1)) none
  | none => return .empty

def scalarArgs (i : Nat) : List Value → Run (List Scalar)
  | [] => return []
  | .scalar s :: args => return s :: (← scalarArgs (i + 1) args)
  | .array _ :: _ => Run.fail (.arrayArgument (i + 1)) none

/-- An argument that has to be a scalar, or another scalar if it is not given. -/
def scalarArgOr (args : List Value) (i : Nat) (other : Run Scalar) : Run Scalar :=
  if i < args.length then scalarArg args i else other

def record : Run Scalar :=
  Run.global "$0"

def printed (separator : Scalar) (args : List Value) : Run String := do
  if args.isEmpty then return (← record).text
  let texts ← scalarArgs 0 args
  return separator.text.intercalate (texts.map (·.text))

def formatted (args : List Value) : Run String := do
  match ← scalarArgs 0 args with
  | [] => return ""
  | format :: rest => Run.format format.text rest

/-- The third argument, by default the record, with matches of the first replaced. -/
def substituted (replace : Pattern → List Char → List Char → List Char) (args : List Value) :
    Run Scalar := do
  let pattern ← scalarArg args 0
  let replacement ← scalarArg args 1
  let subject ← scalarArgOr args 2 record
  let p ← Run.pattern pattern.text
  return .ofChars (replace p replacement.chars subject.chars)

/-- The place of the first match, counted from one; zero if there is none. -/
def matched (args : List Value) : Run Scalar := do
  let text ← scalarArg args 0
  let p ← Run.pattern (← scalarArg args 1).text
  match p.find? text.chars with
  | some span => return .ofCount (span.start + 1)
  | none => return .ofBool false

/-- Cut the first argument into an array that takes the place of the second. -/
def splitInto (args : List Value) : Run (Scalar × List Value) := do
  let text ← scalarArg args 0
  let separator ← scalarArgOr args 2 (Run.global "FS")
  let fields ← Run.fields text separator
  return (.ofCount fields.length, args.set 1 (.ofFields (fields.map String.ofList)))

/-- The length of a text in characters, or of an array in elements. -/
def measured : List Value → Run Scalar
  | [] => return .ofCount (← record).chars.length
  | .array t :: _ => return .ofCount t.size
  | .scalar s :: _ => return .ofCount s.chars.length

def cut (args : List Value) : Run Scalar := do
  let text ← scalarArg args 0
  let start := (← scalarArg args 1).toNumber.toInt64
  if args.length ≤ 2 then return .ofChars (window text.chars start none)
  let length := (← scalarArg args 2).toNumber.toInt64
  return .ofChars (window text.chars start (some length))

def printLine (args : List Value) : Run Scalar := do
  let separator ← Run.global "OFS"
  let terminator ← Run.global "ORS"
  let line ← printed separator args
  Run.emit (line ++ terminator.text)
  return .empty

def printFormatted (args : List Value) : Run Scalar := do
  Run.emit (← formatted args)
  return .empty

/-- Take the next record: one if there was one, zero if not, and minus one if it could not be cut
into fields. -/
def takeRecord : Run Scalar := do
  match ← Run.advance? with
  | .ok more => return .ofBool more
  | .error _ => return ⟨"-1"⟩

def dropRecords : Run Scalar := do
  Run.skipRecords
  return .ofBool true

def leave (args : List Value) : Run Scalar := do
  Run.requestExit (exitStatus (← scalarArg args 0))
  return .empty

def mapText (f : List Char → List Char) (args : List Value) : Run Scalar := do
  return .ofChars (f (← scalarArg args 0).chars)

def keeping (args : List Value) (answer : Run Scalar) : Run (Scalar × List Value) :=
  return (← answer, args)

def apply (b : Builtin) (args : List Value) : Run (Scalar × List Value) :=
  match b with
  | .print => keeping args (printLine args)
  | .printf => keeping args (printFormatted args)
  | .sprintf => keeping args (return ⟨← formatted args⟩)
  | .getline => keeping args takeRecord
  | .next => keeping args (return .ofBool (← Run.advance))
  | .nextfile => keeping args dropRecords
  | .exit => keeping args (leave args)
  | .gsub => keeping args (substituted Pattern.replaceAll args)
  | .sub => keeping args (substituted Pattern.replaceFirst args)
  | .match => keeping args (matched args)
  | .index => keeping args (return indexOf (← scalarArg args 0) (← scalarArg args 1))
  | .length => keeping args (measured args)
  | .split => splitInto args
  | .substr => keeping args (cut args)
  | .tolower => keeping args (mapText Text.toLower args)
  | .toupper => keeping args (mapText Text.toUpper args)

end Builtin

end PatternAction
