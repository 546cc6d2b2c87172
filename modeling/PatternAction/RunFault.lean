import PatternAction.Pattern
import PatternAction.Report
import PatternAction.Script

/-!
What can go wrong while a script runs.
-/

set_option autoImplicit false
set_option relaxedAutoImplicit false

namespace PatternAction

/-- Why a running script fails, apart from patterns that cannot be read. -/
inductive RunCause where
  | patternAsValue (pattern : String)
  | notArray (name : String)
  | arrayAsScalar (written : String)
  | missingOperand (op : Operator)
  | patternExpected
  | arrayNameExpected
  | scalarToArray (name : String)
  | badTarget (written : String)
  | argumentCount (name : String) (given : Nat)
  | parameterCount (name : String)
  | unknownFunction (name : String)
  /-- An argument, counted from one, that had to be a scalar. -/
  | arrayArgument (position : Nat)
  | forInNotArray (name : String)
  | deleteNotArray (name : String)
deriving DecidableEq, Repr

def RunCause.message : RunCause → String
  | .patternAsValue pattern =>
    "pattern `" ++ pattern ++ "` used as a value; patterns belong in guards or after ~"
  | .notArray name => name ++ " is not an array"
  | .arrayAsScalar written => "array " ++ written ++ " used in a scalar context"
  | .missingOperand op => "operator " ++ op.name ++ " needs two operands"
  | .patternExpected => "the right side of ~ and !~ must be a pattern"
  | .arrayNameExpected => "the right side of `in` must be an array name"
  | .scalarToArray name => "cannot assign a scalar to array " ++ name
  | .badTarget written => "invalid assignment target: " ++ written
  | .argumentCount name given =>
    "wrong number of arguments to " ++ name ++ ": " ++ toString given
  | .parameterCount name => "Parameter count mismatch for function " ++ name
  | .unknownFunction name => "unknown function: " ++ name
  | .arrayArgument position =>
    "argument " ++ toString position ++ " is an array used in a scalar context"
  | .forInNotArray name => "for-in needs an array, " ++ name ++ " is not one"
  | .deleteNotArray name => "delete needs an array, " ++ name ++ " is not one"

inductive RunFault where
  | failure (cause : RunCause) (location : Option Location)
  | pattern (fault : Pattern.Fault)
deriving DecidableEq, Repr

inductive RunHalt where
  | fault (cause : RunFault)
  /-- A number could not be laid out with as many places as a format asks for, which is no fault
  that is reported: it ends the program on the spot. -/
  | aborted
  /-- The end of the fuel, which says nothing about the script. -/
  | outOfFuel
deriving DecidableEq, Repr

def RunFault.report : RunFault → Report
  | .failure cause location => .ofRun cause.message location
  | .pattern fault => .pattern fault.message

theorem RunFault.isRuntime_report (f : RunFault) : f.report.isRuntime = true := by
  cases f with
  | failure cause location => cases location <;> rfl
  | pattern fault => rfl

end PatternAction
