import PatternAction.Location

/-!
Scripts as trees.  A script is functions, blocks run before and after the records, and rules run
on each record.  Every node read from a text keeps its place there.
-/

set_option autoImplicit false
set_option relaxedAutoImplicit false

namespace PatternAction

inductive Operator where
  | preInc | preDec | dollar | unaryNeg | unaryPos | not
  | postInc | postDec
  | eq | ne | lt | le | gt | ge
  | and | or
  | match | notMatch
  | exponent | add | subtract | multiply | divide | modulo
  | concatenation | in
deriving DecidableEq, Repr

namespace Operator

def name : Operator → String
  | .preInc => "PreInc"
  | .preDec => "PreDec"
  | .dollar => "Dollar"
  | .unaryNeg => "UnaryNeg"
  | .unaryPos => "UnaryPos"
  | .not => "Not"
  | .postInc => "PostInc"
  | .postDec => "PostDec"
  | .eq => "Eq"
  | .ne => "Ne"
  | .lt => "Lt"
  | .le => "Le"
  | .gt => "Gt"
  | .ge => "Ge"
  | .and => "And"
  | .or => "Or"
  | .match => "Match"
  | .notMatch => "NotMatch"
  | .exponent => "Exponent"
  | .add => "Add"
  | .subtract => "Subtract"
  | .multiply => "Multiply"
  | .divide => "Divide"
  | .modulo => "Modulo"
  | .concatenation => "Concatenation"
  | .in => "In"

def all : List Operator :=
  [.preInc, .preDec, .dollar, .unaryNeg, .unaryPos, .not, .postInc, .postDec,
    .eq, .ne, .lt, .le, .gt, .ge, .and, .or, .match, .notMatch,
    .exponent, .add, .subtract, .multiply, .divide, .modulo, .concatenation, .in]

def ofName? (text : String) : Option Operator :=
  all.find? (·.name == text)

def isLeading (op : Operator) : Bool :=
  op ∈ [.preInc, .preDec, .dollar, .unaryNeg, .unaryPos, .not]

def isTrailing (op : Operator) : Bool :=
  op ∈ [.postInc, .postDec]

def isBinary (op : Operator) : Bool :=
  !op.isLeading && !op.isTrailing

/-- How the operator is written, with the blanks that go with it. -/
def symbol : Operator → String
  | .preInc | .postInc => "++"
  | .preDec | .postDec => "--"
  | .dollar => "$"
  | .unaryNeg => "-"
  | .unaryPos => "+"
  | .not => "!"
  | .eq => " == "
  | .ne => " != "
  | .lt => " < "
  | .le => " <= "
  | .gt => " > "
  | .ge => " >= "
  | .and => " && "
  | .or => " || "
  | .match => " ~ "
  | .notMatch => " !~ "
  | .exponent => "^"
  | .add => "+"
  | .subtract => "-"
  | .multiply => "*"
  | .divide => "/"
  | .modulo => "%"
  | .concatenation => " "
  | .in => " in "

end Operator

inductive AssignForm where
  /-- A target, an equals sign and a value. -/
  | plain
  /-- With an operator; the value stored is the target combined with what was written. -/
  | compound (op : Operator)
  /-- By `++` or `--`; the value stored is that operator applied to the target. -/
  | step
deriving DecidableEq, Repr

inductive Expr where
  | const (text : String)
  | pattern (text : String)
  | var (name : String) (location : Location)
  | elem (name : String) (index : Expr) (location : Location)
  | unary (op : Operator) (operand : Expr) (location : Location)
  | binary (op : Operator) (left right : Expr) (location : Location)
  | ternary (condition whenTrue whenFalse : Expr) (location : Location)
  | call (name : String) (args : List Expr) (location : Location)
  | assign (form : AssignForm) (target value : Expr) (location : Location)
deriving Repr

namespace Expr

def location? : Expr → Option Location
  | .const _ | .pattern _ => none
  | .var _ l | .elem _ _ l | .unary _ _ l | .binary _ _ _ l | .ternary _ _ _ l | .call _ _ l
  | .assign _ _ _ l => some l

def stepBy (op : Operator) (operand : Expr) (location : Location) : Expr :=
  .assign .step operand (.unary op operand location) location

end Expr

mutual

inductive Stmt where
  | expr (value : Expr)
  | choice (arms : List Arm) (location : Location)
  | while (condition : Expr) (body : Block) (location : Location)
  | doWhile (body : Block) (condition : Expr) (location : Location)
  | for (init condition update : Option Expr) (body : Block) (location : Location)
  | forIn (name array : String) (body : Block) (location : Location)
  | return (value : Option Expr) (location : Location)
  | break (location : Location)
  | continue (location : Location)
  | delete (array : String) (indices : List Expr) (location : Location)

/-- Statements in braces, or a single one.  The guard of a rule tells on which records they are run;
the guard of any other block is never looked at. -/
inductive Block where
  | mk (guard : Option Expr) (statements : List Stmt) (location : Location)

/-- One arm of an `if`; the last may be without a condition. -/
inductive Arm where
  | mk (condition : Option Expr) (body : Block)

end

namespace Block

def guard : Block → Option Expr
  | .mk guard _ _ => guard

def statements : Block → List Stmt
  | .mk _ statements _ => statements

def location : Block → Location
  | .mk _ _ location => location

end Block

namespace Arm

def condition : Arm → Option Expr
  | .mk condition _ => condition

def body : Arm → Block
  | .mk _ body => body

end Arm

structure Function where
  name : String
  params : List String
  body : List Stmt
  location : Location

/-- A block run on each record that passes its guard; without a guard every record does. -/
abbrev Rule := Block

structure Program where
  functions : List Function
  /-- Blocks run before the first record. -/
  begins : List Block
  /-- Blocks run after the last record. -/
  ends : List Block
  rules : List Rule

namespace Program

def empty : Program := ⟨[], [], [], []⟩

/-- The function of a name; a later definition hides an earlier one. -/
def function? (p : Program) (name : String) : Option Function :=
  p.functions.reverse.find? (·.name == name)

end Program

end PatternAction
