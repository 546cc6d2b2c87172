import PatternAction.Script
import PatternAction.Text.Blank

/-!
The text of a tree, as shown in diagnostics.  Operands are not put in parentheses, so this text
is for reading; it need not parse back.
-/

set_option autoImplicit false
set_option relaxedAutoImplicit false

namespace PatternAction

mutual

def Expr.render : Expr → String
  | .const text => text
  | .pattern text => "`" ++ text ++ "`"
  | .var name _ => name
  | .elem name index _ => name ++ "[" ++ index.render ++ "]"
  | .unary op operand _ =>
    if op.isLeading then op.symbol ++ operand.render else operand.render ++ op.symbol
  | .binary op left right _ =>
    if op.isLeading then op.symbol ++ left.render
    else if op.isTrailing then left.render ++ op.symbol
    else left.render ++ op.symbol ++ right.render
  | .ternary condition whenTrue whenFalse _ =>
    condition.render ++ " ? " ++ whenTrue.render ++ " : " ++ whenFalse.render
  | .call name args _ => name ++ "(" ++ Expr.renderList args ++ ") "
  | .assign .plain target value _ => target.render ++ " = " ++ value.render
  | .assign (.compound op) target value _ =>
    target.render ++ " " ++ String.ofList (Text.trim op.symbol.toList) ++ "= " ++ value.render
  | .assign .step target value _ => target.render ++ value.render

def Expr.renderList : List Expr → String
  | [] => ""
  | [e] => e.render
  | e :: es => e.render ++ ", " ++ Expr.renderList es

end

def Expr.renderOption : Option Expr → String
  | some e => e.render
  | none => ""

mutual

/-- The text of a statement; all but plain expressions end in a blank. -/
def Stmt.render : Stmt → String
  | .expr value => value.render
  | .choice arms _ => Arm.renderList true arms
  | .while condition body _ =>
    "while (" ++ condition.render ++ ") \x7b\n" ++ body.renderLines ++ "\x7d "
  | .doWhile body condition _ =>
    "do \x7b\n" ++ body.renderLines ++ "\x7d while (" ++ condition.render ++ "); "
  | .for init condition update body _ =>
    "for (" ++ Expr.renderOption init ++ "; " ++ Expr.renderOption condition ++ "; " ++
      Expr.renderOption update ++ ") \x7b\n" ++ body.renderLines ++ "\x7d "
  | .forIn name array body _ =>
    "for (" ++ name ++ " in " ++ array ++ ") \x7b\n" ++ body.renderLines ++ "\x7d "
  | .return (some value) _ => "return " ++ value.render ++ " "
  | .return none _ => "return "
  | .break _ => "break "
  | .continue _ => "continue "
  | .delete array [] _ => "delete " ++ array ++ " "
  | .delete array (i :: is) _ => "delete " ++ array ++ "[" ++ Expr.renderList (i :: is) ++ "] "

def Block.renderLines : Block → String
  | .mk _ statements _ => Stmt.renderLines statements

def Stmt.renderLines : List Stmt → String
  | [] => ""
  | s :: ss => s.render ++ "\n" ++ Stmt.renderLines ss

def Arm.render (first : Bool) : Arm → String
  | .mk (some condition) body =>
    (if first then "if (" else " else if (") ++ condition.render ++ ") \x7b\n" ++
      body.renderLines ++ "\x7d "
  | .mk none body => " else \x7b\n" ++ body.renderLines ++ "\x7d "

def Arm.renderList (first : Bool) : List Arm → String
  | [] => ""
  | a :: as => a.render first ++ Arm.renderList false as

end

/-- The text of a block: its statements on one line, or behind a guard one a line.  A guard with
nothing to do stands alone. -/
def Block.render (b : Block) : String :=
  match b.guard, b.statements with
  | some guard, [] => guard.render
  | some guard, body => guard.render ++ " \x7b\n" ++ Stmt.renderLines body ++ "\x7d"
  | none, body => String.ofList (Text.trimEnd ("".intercalate (body.map (·.render ++ " "))).toList)

def Function.render (f : Function) : String :=
  "function " ++ f.name ++ "(" ++ ", ".intercalate f.params ++ ") \x7b\n" ++
    Stmt.renderLines f.body ++ "\x7d"

/-- The text of a script: functions, blocks before and after the records, then the rules. -/
def Program.render (p : Program) : String :=
  "".intercalate (p.functions.map (·.render ++ "\n")) ++
    "".intercalate (p.begins.map fun b => "BEGIN " ++ b.render ++ "\n") ++
    "".intercalate (p.ends.map fun b => "END " ++ b.render ++ "\n") ++
    "".intercalate (p.rules.map (·.render ++ " "))

end PatternAction
