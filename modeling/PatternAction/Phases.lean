import PatternAction.Eval

/-!
The run of a script: the blocks before the first record, then each rule over all records, then the
blocks after the last record.  An exit ends the phase it happens in, and before the last phase it
leads on to that phase.
-/

set_option autoImplicit false
set_option relaxedAutoImplicit false

namespace PatternAction

variable [Platform]

structure Setup where
  fileName : Option String
  separator : Option String
  /-- Variables and their values, in the order in which they are set. -/
  assignments : List (String × String)
deriving DecidableEq, Repr

def Machine.setGlobal? (m : Machine) (name : String) : Option String → Machine
  | some text => m.setGlobal name text
  | none => m

/-- Set the name of the input, the separator, and then the variables. -/
def Machine.setUp (m : Machine) (s : Setup) : Machine :=
  s.assignments.foldl (fun m (name, text) => m.setGlobal name text)
    ((m.setGlobal? "FILENAME" s.fileName).setGlobal? "FS" s.separator)

namespace Phases

def blocks (exec : Stmt → Run Flow) : List Block → Run Unit
  | [] => return
  | b :: bs => do
    if ← Run.exitPending then return
    let _ ← Eval.sequence exec b.statements
    blocks exec bs

/-- Whether a rule applies to the current record: a bare pattern is searched for in it. -/
def applies (eval : Expr → Run Value) : Option Expr → Run Bool
  | some (.pattern text) => do
    let record ← Run.global "$0"
    let p ← Run.pattern text
    return p.isMatch record.chars
  | guard => Eval.holds eval guard

/-- Apply a rule to the records that are left, of which there are at most `count`. -/
def rounds (eval : Expr → Run Value) (exec : Stmt → Run Flow) (rule : Rule) : Nat → Run Unit
  | 0 => return
  | count + 1 => do
    if ← Run.exitPending then return
    if ← Run.advance then
      if ← applies eval rule.guard then
        let _ ← Eval.sequence exec rule.statements
      rounds eval exec rule count

/-- Apply rules in order, each to all records, until an exit is pending. -/
def rules (eval : Expr → Run Value) (exec : Stmt → Run Flow) : List Rule → Run Unit
  | [] => return
  | rule :: rest => do
    if ← Run.exitPending then return
    Run.resetRecords
    rounds eval exec rule (← Run.recordCount)
    rules eval exec rest

end Phases

def Program.run (p : Program) (fuel : Nat) : Run Int := do
  Phases.blocks (p.exec fuel) p.begins
  Phases.rules (p.eval fuel) (p.exec fuel) p.rules
  let pending ← Run.takeExit
  Phases.blocks (p.exec fuel) p.ends
  return ((← Run.exitStatus?).or pending).getD 0

end PatternAction
