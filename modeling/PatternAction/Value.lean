import PatternAction.Number.Decimal
import PatternAction.Number.Render
import Std.Data.TreeMap

/-!
Values.  A scalar is a text; numbers are read from it and written into it as they are needed.  An
array is a table from texts to scalars.
-/

set_option autoImplicit false
set_option relaxedAutoImplicit false

namespace PatternAction

/-- A text, read as a number where one is needed. -/
structure Scalar where
  text : String
deriving DecidableEq, Repr

namespace Scalar

def empty : Scalar := ⟨""⟩

def ofNumber (x : Number) : Scalar := ⟨x.render⟩

def ofBool (b : Bool) : Scalar := ⟨if b then "1" else "0"⟩

def ofCount (n : Nat) : Scalar := ⟨String.ofList (decimalDigits n)⟩

def ofChars (cs : List Char) : Scalar := ⟨String.ofList cs⟩

def chars (s : Scalar) : List Char := s.text.toList

def isEmpty (s : Scalar) : Bool := s.text == ""

def toNumber (s : Scalar) : Number := .ofLeading s.chars

def asNumber? (s : Scalar) : Option Number := Number.ofWhole? s.chars

def isOne (s : Scalar) : Bool := s.text == "1"

/-- The test made by logical operators: a numeral holds unless it is zero, any other text unless
it is empty. -/
def isTruthy (s : Scalar) : Bool :=
  match s.asNumber? with
  | some x => !x.isZero
  | none => !s.isEmpty

def order (a b : Scalar) : Ordering :=
  match a.asNumber?, b.asNumber? with
  | some x, some y => x.order y
  | _, _ => compare a.text b.text

end Scalar

abbrev Table := Std.TreeMap String Scalar

inductive Value where
  | scalar (s : Scalar)
  | array (elements : Table)

namespace Value

def empty : Value := .scalar .empty

def array? : Value → Option Table
  | .array t => some t
  | .scalar _ => none

def ofFields (fields : List String) : Value :=
  .array ((fields.zipIdx 1).foldl (fun t (f, i) => t.insert (Scalar.ofCount i).text ⟨f⟩) ∅)

end Value

end PatternAction
