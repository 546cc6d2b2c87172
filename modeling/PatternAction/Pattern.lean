/-!
Patterns, as scripts know them.
-/

set_option autoImplicit false
set_option relaxedAutoImplicit false

namespace PatternAction

/-- A part of a text, by the characters in front of its two ends. -/
structure Span where
  start : Nat
  stop : Nat
deriving DecidableEq, Repr

/-- A compiled pattern: what it does to a text. -/
structure Pattern where
  /-- Whether it matches somewhere. -/
  isMatch : List Char → Bool
  /-- The first match. -/
  find? : List Char → Option Span
  /-- Cut at every match. -/
  split : List Char → List (List Char)
  /-- Put the first text in place of every match in the second. -/
  replaceAll : List Char → List Char → List Char
  /-- Put the first text in place of the first match in the second. -/
  replaceFirst : List Char → List Char → List Char

/-- Why a text is no pattern, in the words of the engine. -/
structure Pattern.Fault where
  message : String
deriving DecidableEq, Repr

end PatternAction
