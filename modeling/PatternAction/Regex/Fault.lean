/-!
What can be wrong with a pattern.
-/

set_option autoImplicit false
set_option relaxedAutoImplicit false

namespace PatternAction.Regex

inductive Fault where
  | groupUnclosed
  | groupUnopened
  | groupName
  | flags
  | lookAround
  | repetitionMissing
  | repetitionCount
  | classUnclosed
  | classRange
  | classItem
  | escape
  | property
  /-- Something that could match parts of characters. -/
  | notText
  | tooDeep
  | tooLarge
deriving DecidableEq, Repr

def Fault.message : Fault → String
  | .groupUnclosed => "unclosed group"
  | .groupUnopened => "unopened group"
  | .groupName => "invalid capture group name"
  | .flags => "invalid flags"
  | .lookAround => "look-around is not supported"
  | .repetitionMissing => "repetition operator missing expression"
  | .repetitionCount => "invalid repetition count"
  | .classUnclosed => "unclosed character class"
  | .classRange => "invalid character class range"
  | .classItem => "invalid item in character class"
  | .escape => "invalid escape sequence"
  | .property => "property not found"
  | .notText => "pattern can match invalid text"
  | .tooDeep => "pattern is nested too deeply"
  | .tooLarge => "compiled pattern is too large"

end PatternAction.Regex
