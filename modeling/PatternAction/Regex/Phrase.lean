import PatternAction.Regex.Flags
import PatternAction.Regex.Look

/-!
Patterns as they are written, before flags give them their meaning.
-/

set_option autoImplicit false
set_option relaxedAutoImplicit false

namespace PatternAction.Regex

/-- A character as written; two hexadecimal digits name a byte where characters are bytes. -/
structure Literal where
  char : Char
  isByte : Bool
deriving DecidableEq, Repr

inductive LetterClass where
  | digit | space | word
deriving DecidableEq, Repr

inductive AsciiClass where
  | alnum | alpha | ascii | blank | cntrl | digit | graph | lower | print | punct | space | upper
  | word | xdigit
deriving DecidableEq, Repr

def AsciiClass.ofName? (name : String) : Option AsciiClass :=
  match name with
  | "alnum" => some .alnum
  | "alpha" => some .alpha
  | "ascii" => some .ascii
  | "blank" => some .blank
  | "cntrl" => some .cntrl
  | "digit" => some .digit
  | "graph" => some .graph
  | "lower" => some .lower
  | "print" => some .print
  | "punct" => some .punct
  | "space" => some .space
  | "upper" => some .upper
  | "word" => some .word
  | "xdigit" => some .xdigit
  | _ => none

/-- What a set is asked for by: a bare name, or the value of a property. -/
inductive PropertyQuery where
  | bare (name : List Char)
  | value (property value : List Char)
deriving DecidableEq, Repr

inductive SetOperation where
  | inter | diff | symmDiff
deriving DecidableEq, Repr

inductive Bracket where
  | literal (l : Literal)
  | range (lo hi : Literal)
  | ascii (set : AsciiClass) (negated : Bool)
  | letter (set : LetterClass) (negated : Bool)
  | property (query : PropertyQuery) (negated : Bool)
  /-- Brackets inside. -/
  | nested (negated : Bool) (body : Bracket)
  | union (items : List Bracket)
  | operation (op : SetOperation) (left right : Bracket)
deriving Repr

/-- What a group is for: to note where it matches, or to keep flags inside. -/
inductive GroupKind where
  | capture (index : Nat)
  | plain (changes : FlagChanges)
deriving DecidableEq, Repr

inductive Phrase where
  | empty
  | flags (changes : FlagChanges)
  | literal (l : Literal)
  | dot
  | lineStart
  | lineEnd
  | textStart
  | textEnd
  | word (test : WordTest)
  | letter (set : LetterClass) (negated : Bool)
  | property (query : PropertyQuery) (negated : Bool)
  | bracket (negated : Bool) (body : Bracket)
  | repeat (least : Nat) (most : Option Nat) (greedy : Bool) (body : Phrase)
  | group (kind : GroupKind) (body : Phrase)
  | seq (items : List Phrase)
  | alt (items : List Phrase)
deriving Repr

end PatternAction.Regex
