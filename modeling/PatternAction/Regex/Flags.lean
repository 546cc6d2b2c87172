/-!
Flags, which change the meaning of what follows them.
-/

set_option autoImplicit false
set_option relaxedAutoImplicit false

namespace PatternAction.Regex

inductive Flag where
  /-- Letters match in either case. -/
  | ignoreCase
  /-- Lines have ends of their own. -/
  | multiLine
  /-- A dot takes line ends too. -/
  | dotAll
  /-- Repetitions prefer fewer, and those marked otherwise prefer more. -/
  | swapGreed
  /-- Characters of every script count. -/
  | unicode
  /-- A carriage return ends a line as well. -/
  | returns
  /-- Blanks and comments do not count. -/
  | verbose
deriving DecidableEq, Repr

def Flag.ofLetter? (c : Char) : Option Flag :=
  match c with
  | 'i' => some .ignoreCase
  | 'm' => some .multiLine
  | 's' => some .dotAll
  | 'U' => some .swapGreed
  | 'u' => some .unicode
  | 'R' => some .returns
  | 'x' => some .verbose
  | _ => none

abbrev FlagChanges := List (Flag × Bool)

/-- The flags that decide what a part of a pattern means. -/
structure Flags where
  ignoreCase : Bool
  multiLine : Bool
  dotAll : Bool
  swapGreed : Bool
  unicode : Bool
  returns : Bool
deriving DecidableEq, Repr

namespace Flags

def initial : Flags := ⟨false, false, false, false, true, false⟩

def set (f : Flags) : Flag × Bool → Flags
  | (.ignoreCase, on) => { f with ignoreCase := on }
  | (.multiLine, on) => { f with multiLine := on }
  | (.dotAll, on) => { f with dotAll := on }
  | (.swapGreed, on) => { f with swapGreed := on }
  | (.unicode, on) => { f with unicode := on }
  | (.returns, on) => { f with returns := on }
  | (.verbose, _) => f

def change (f : Flags) (changes : FlagChanges) : Flags :=
  changes.foldl set f

end Flags

end PatternAction.Regex
