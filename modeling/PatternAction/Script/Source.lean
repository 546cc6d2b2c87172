import PatternAction.Report
import PatternAction.Script.StmtParser
import PatternAction.Token.Lexer

/-!
From the text of a script to its tree, and the diagnostics on the way.
-/

set_option autoImplicit false
set_option relaxedAutoImplicit false

namespace PatternAction

def LexFault.report (f : LexFault) : Report :=
  .lexer f.cause.message f.location

def ParseFault.report (f : ParseFault) : Report :=
  .parser f.message f.location

inductive SourceFault where
  | lex (fault : LexFault)
  | parse (fault : ParseFault)
deriving DecidableEq, Repr

def SourceFault.report : SourceFault → Report
  | .lex f => f.report
  | .parse f => f.report

def Program.ofSource (source : String) : Except (Halt SourceFault) Program :=
  match Token.tokenize source with
  | .error f => .error (.fault (.lex f))
  | .ok tokens =>
    match Program.ofTokens tokens with
    | .ok p => .ok p
    | .error (.fault f) => .error (.fault (.parse f))
    | .error .outOfFuel => .error .outOfFuel

end PatternAction
