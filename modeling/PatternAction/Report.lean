import PatternAction.Location

/-!
What is reported to a user when a stage fails.
-/

set_option autoImplicit false
set_option relaxedAutoImplicit false

namespace PatternAction

/-- A diagnostic, by the stage that made it. -/
inductive Report where
  | lexer (message : String) (location : Location)
  | parser (message : String) (location : Location)
  | runtime (message : String)
  | runtimeAt (message : String) (location : Location)
  | io (message : String)
  | pattern (message : String)
deriving DecidableEq, Repr

namespace Report

/-- A failure of a running script, with a place if it has one. -/
def ofRun (message : String) : Option Location → Report
  | some l => .runtimeAt message l
  | none => .runtime message

def render : Report → String
  | .lexer message l => "lexer error at " ++ l.render ++ ": " ++ message
  | .parser message l => "parse error at " ++ l.render ++ ": " ++ message
  | .runtime message => "runtime error: " ++ message
  | .runtimeAt message l => "runtime error at " ++ l.render ++ ": " ++ message
  | .io message => "I/O error: " ++ message
  | .pattern message => "regex error: " ++ message

def location? : Report → Option Location
  | .lexer _ l | .parser _ l | .runtimeAt _ l => some l
  | .runtime _ | .io _ | .pattern _ => none

/-- Whether a running script failed, rather than the reading of a script or of its input. -/
def isRuntime : Report → Bool
  | .runtime _ | .runtimeAt _ _ | .pattern _ => true
  | .lexer _ _ | .parser _ _ | .io _ => false

end Report

end PatternAction
