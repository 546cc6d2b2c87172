import PatternAction.Pattern.Cache
import PatternAction.Scope
import PatternAction.Text.Blank

/-!
Records: the lines of the input, delivered one by one and cut into fields.
-/

set_option autoImplicit false
set_option relaxedAutoImplicit false

namespace PatternAction

open Text (pieces words)

variable [Platform]

/-! ## Fields -/

/-- Cut a text into fields.  A single blank cuts at runs of blanks, any other single character at
each occurrence, a longer separator is a pattern, and an empty one cuts between all characters.
An empty text has no fields. -/
def splitFields (text : List Char) (separator : String) (cache : Pattern.Cache) :
    Except Pattern.Fault (List (List Char) × Pattern.Cache) :=
  if text.isEmpty then .ok ([], cache)
  else match separator.toList with
    | [] => .ok (text.map ([·]), cache)
    | [c] => .ok (if c = ' ' then words text else pieces c text, cache)
    | _ => do
      let (p, cache) ← cache.compile separator
      return (p.split text, cache)

def fieldName (n : Nat) : String :=
  "$" ++ (Scalar.ofCount n).text

/-! ## Lines -/

def dropReturn (line : List Char) : List Char :=
  match line.reverse with
  | '\r' :: rest => rest.reverse
  | _ => line

/-- The lines among the pieces between newlines.  The last piece is a line only if it is not empty;
a newline takes a carriage return in front of it along. -/
def linesOfPieces : List (List Char) → List (List Char)
  | [] => []
  | [last] => if last.isEmpty then [] else [dropReturn last]
  | line :: rest => dropReturn (dropReturn line) :: linesOfPieces rest

def linesOf (text : List Char) : List (List Char) :=
  linesOfPieces (pieces '\n' text)

/-! ## Records -/

/-- The input, and how much of it has been delivered. -/
structure Records where
  lines : Array String
  /-- How many lines have been delivered or skipped. -/
  position : Nat
  nr : Nat
  fnr : Nat
  /-- How many fields the last record had. -/
  fields : Nat
deriving DecidableEq, Repr

namespace Records

def ofLines (lines : List String) : Records :=
  ⟨lines.toArray, 0, 0, 0, 0⟩

def none : Records := ofLines []

def ofText (text : String) : Records :=
  ofLines ((linesOf text.toList).map String.ofList)

def size (r : Records) : Nat :=
  r.lines.size

def bindFields (scope : Scope) (n : Nat) : List (List Char) → Scope
  | [] => scope
  | f :: fs => bindFields (scope.setScalar (fieldName n) (.ofChars f)) (n + 1) fs

def unbindFields (scope : Scope) (n : Nat) : Nat → Scope
  | 0 => scope
  | count + 1 => unbindFields (scope.erase (fieldName (n + 1))) (n + 1) count

/-- The bindings that a record makes: itself, its fields in place of those of the record before,
and the counts. -/
def publish (scope : Scope) (line : String) (fields : List (List Char)) (before nr fnr : Nat) :
    Scope :=
  let n := fields.length
  let scope := bindFields (scope.setScalar (fieldName 0) ⟨line⟩) 1 fields
  let scope := unbindFields scope n (before - n)
  ((scope.setScalar "NF" (.ofCount n)).setScalar "NR" (.ofCount nr)).setScalar "FNR" (.ofCount fnr)

/-- Deliver the next line as a record.  There is no result when the lines are used up; a separator
that is no pattern delivers nothing. -/
def advance (r : Records) (scope : Scope) (cache : Pattern.Cache) :
    Except Pattern.Fault (Option (Records × Scope × Pattern.Cache)) :=
  match r.lines[r.position]? with
  | Option.none => .ok Option.none
  | some line => do
    let (fields, cache) ← splitFields line.toList (scope.scalar "FS").text cache
    let scope := publish scope line fields r.fields (r.nr + 1) (r.fnr + 1)
    return some (⟨r.lines, r.position + 1, r.nr + 1, r.fnr + 1, fields.length⟩, scope, cache)

def reset (r : Records) : Records :=
  { r with position := 0, nr := 0, fnr := 0 }

def skip (r : Records) : Records :=
  { r with position := r.lines.size }

end Records

end PatternAction
