import PatternAction.Builtin
import PatternAction.Script.Render

/-!
What expressions and statements do.

Every construct is given as a combinator over the meaning of its parts, and the meaning of a script
is what these combinators yield when they are nested as often as the fuel allows.  Running out of
fuel is neither an answer nor a fault of the script.
-/

set_option autoImplicit false
set_option relaxedAutoImplicit false

namespace PatternAction

/-- How a run goes on behind a statement. -/
inductive Flow where
  | next
  | break
  | continue
  | return (value : Option Scalar)
deriving DecidableEq, Repr

variable [Platform]

namespace Eval

section Expressions

variable (eval : Expr → Run Value)

def scalar (e : Expr) : Run Scalar := do
  match ← eval e with
  | .scalar s => return s
  | .array _ => Run.fail (.arrayAsScalar e.render) e.location?

/-! ## Operators -/

def operand (op : Operator) (right? : Option Expr) (location : Location) : Run Expr :=
  match right? with
  | some e => return e
  | none => Run.fail (.missingOperand op) location

def map (f : Scalar → Scalar) (e : Expr) : Run Scalar := do
  return f (← scalar eval e)

def map₂ (f : Scalar → Scalar → Scalar) (op : Operator) (left : Expr) (right? : Option Expr)
    (location : Location) : Run Scalar := do
  let a ← scalar eval left
  let b ← scalar eval (← operand op right? location)
  return f a b

def onNumbers (f : Number → Number → Number) (a b : Scalar) : Scalar :=
  .ofNumber (f a.toNumber b.toNumber)

def onOrder (test : Ordering → Bool) (a b : Scalar) : Scalar :=
  .ofBool (test (a.order b))

/-- `&&` and `||`: the left operand settles the answer if its truth is `settled`. -/
def logical (settled : Bool) (op : Operator) (left : Expr) (right? : Option Expr)
    (location : Location) : Run Scalar := do
  if (← scalar eval left).isTruthy == settled then return .ofBool settled
  let b ← scalar eval (← operand op right? location)
  return .ofBool b.isTruthy

/-- `~` and `!~`; what has to be a pattern is looked at first. -/
def matching (expected : Bool) (op : Operator) (left : Expr) (right? : Option Expr)
    (location : Location) : Run Scalar := do
  match ← operand op right? location with
  | .pattern text =>
    let subject ← scalar eval left
    let p ← Run.pattern text
    return .ofBool (p.isMatch subject.chars == expected)
  | _ => Run.fail .patternExpected location

/-- `in`; what has to be the name of an array is looked at first. -/
def membership (op : Operator) (left : Expr) (right? : Option Expr) (location : Location) :
    Run Scalar := do
  match ← operand op right? location with
  | .var name _ =>
    let key ← scalar eval left
    match ← Run.lookup name with
    | some (.array t) => return .ofBool (t.contains key.text)
    | some (.scalar _) => Run.fail (.notArray name) location
    | none => return .ofBool false
  | _ => Run.fail .arrayNameExpected location

/-- The name of a field: a numeral counts by its whole part, any other text as it is. -/
def fieldName (s : Scalar) : String :=
  match s.asNumber? with
  | some x => "$" ++ (if x.isFinite then toString x.toInt64 else s.text)
  | none => "$" ++ s.text

def field (e : Expr) : Run String := do
  return fieldName (← scalar eval e)

/-- The answer of an operator; an operator in front of or behind its operand ignores a second. -/
def operation (op : Operator) (left : Expr) (right? : Option Expr) (location : Location) :
    Run Scalar :=
  match op with
  | .exponent => map₂ eval (onNumbers .pow) op left right? location
  | .add => map₂ eval (onNumbers .add) op left right? location
  | .subtract => map₂ eval (onNumbers .sub) op left right? location
  | .multiply => map₂ eval (onNumbers .mul) op left right? location
  | .divide => map₂ eval (onNumbers .div) op left right? location
  | .modulo => map₂ eval (onNumbers .rem) op left right? location
  | .eq => map₂ eval (onOrder (· == .eq)) op left right? location
  | .ne => map₂ eval (onOrder (· != .eq)) op left right? location
  | .lt => map₂ eval (onOrder (· == .lt)) op left right? location
  | .le => map₂ eval (onOrder (· != .gt)) op left right? location
  | .gt => map₂ eval (onOrder (· == .gt)) op left right? location
  | .ge => map₂ eval (onOrder (· != .lt)) op left right? location
  | .concatenation => map₂ eval (fun a b => ⟨a.text ++ b.text⟩) op left right? location
  | .and => logical eval false op left right? location
  | .or => logical eval true op left right? location
  | .match => matching eval true op left right? location
  | .notMatch => matching eval false op left right? location
  | .in => membership eval op left right? location
  | .not => map eval (fun a => .ofBool (!a.isTruthy)) left
  | .unaryPos => map eval (fun a => .ofNumber a.toNumber) left
  | .unaryNeg => map eval (fun a => .ofNumber a.toNumber.neg) left
  | .preInc | .postInc => map eval (fun a => .ofNumber (a.toNumber.add .one)) left
  | .preDec | .postDec => map eval (fun a => .ofNumber (a.toNumber.sub .one)) left
  | .dollar => do Run.global (← field eval left)

/-! ## Variables and elements -/

/-- An element of an array; one that is missing is empty, and so is any element of an unbound
name. -/
def element (name : String) (index : Expr) (location : Location) : Run Scalar := do
  let key ← scalar eval index
  match ← Run.lookup name with
  | some (.array t) => return t[key.text]?.getD .empty
  | some (.scalar _) => Run.fail (.notArray name) location
  | none => return .empty

/-- The array of a name for writing; an unbound name and an empty scalar stand for an array without
elements. -/
def tableOf (name : String) (location : Location) : Run Table := do
  match ← Run.lookup name with
  | none => return ∅
  | some (.array t) => return t
  | some (.scalar s) => if s.isEmpty then return ∅ else Run.fail (.notArray name) location

def setElement (name : String) (key value : Scalar) (location : Location) : Run Unit := do
  let t ← tableOf name location
  Run.store name (.array (t.insert key.text value))

def setVariable (name : String) (value : Scalar) (location : Location) : Run Unit := do
  match ← Run.lookup name with
  | some (.array _) => Run.fail (.scalarToArray name) location
  | _ => Run.store name (.scalar value)

def assign (target : Expr) (value : Scalar) (location : Location) : Run Unit :=
  match target with
  | .var name _ => setVariable name value location
  | .elem name index _ => do setElement name (← scalar eval index) value location
  | .unary .dollar e _ => do Run.setGlobal (← field eval e) value
  | .binary .dollar e _ _ => do Run.setGlobal (← field eval e) value
  | _ => Run.fail (.badTarget target.render) location

/-! ## Calls -/

def arguments : List Expr → Run (List Value)
  | [] => return []
  | .pattern text :: es => return .scalar ⟨text⟩ :: (← arguments es)
  | e :: es => return (← eval e) :: (← arguments es)

/-- Arrays come back from a call: an argument that is a plain variable is bound to the array that
stands in its place afterwards. -/
def writeBack : List Expr → List Value → Run Unit
  | .var name _ :: es, .array t :: vs => do
    Run.store name (.array t)
    writeBack es vs
  | _ :: es, _ :: vs => writeBack es vs
  | _, _ => return

def callBuiltin (b : Builtin) (args : List Expr) (location : Location) : Run Scalar := do
  if b.arity.accepts args.length then
    let values ← arguments eval args
    let (result, values) ← b.apply values
    writeBack args values
    return result
  else Run.fail (.argumentCount b.name args.length) location

end Expressions

/-- Run statements in order, until one of them does not just go on to the next. -/
def sequence (exec : Stmt → Run Flow) : List Stmt → Run Flow
  | [] => return .next
  | s :: ss => do
    if ← Run.exitPending then return .next
    match ← exec s with
    | .next => sequence exec ss
    | flow => return flow

/-- The bindings of a call; of two parameters with one name the later counts. -/
def bindParams (params : List String) (values : List Value) : Scope :=
  (params.zip values).foldl (fun scope (name, value) => scope.insert name value) .empty

/-- The values of parameters after a call; of two parameters with one name the first has it. -/
def paramValues : List String → Scope → List Value
  | [], _ => []
  | name :: names, scope =>
    (scope.get? name).getD .empty :: paramValues names (scope.erase name)

def returned : Flow → Scalar
  | .return (some s) => s
  | _ => .empty

def callFunction (eval : Expr → Run Value) (exec : Stmt → Run Flow) (f : Function)
    (args : List Expr) (location : Location) : Run Scalar := do
  if args.length = f.params.length then
    let values ← arguments eval args
    let (flow, frame) ← Run.withFrame (bindParams f.params values) (sequence exec f.body)
    writeBack args (paramValues f.params frame)
    return returned flow
  else Run.fail (.parameterCount f.name) location

def call (p : Program) (eval : Expr → Run Value) (exec : Stmt → Run Flow) (name : String)
    (args : List Expr) (location : Location) : Run Scalar :=
  match Builtin.ofName? name with
  | some b => callBuiltin eval b args location
  | none =>
    match p.function? name with
    | some f => callFunction eval exec f args location
    | none => Run.fail (.unknownFunction name) location

/-! ## Expressions -/

def expression (p : Program) (eval : Expr → Run Value) (exec : Stmt → Run Flow) :
    Expr → Run Value
  | .const text => return .scalar ⟨text⟩
  | .pattern text => Run.fail (.patternAsValue text) none
  | .var name _ => return (← Run.lookup name).getD .empty
  | .elem name index l => return .scalar (← element eval name index l)
  | .unary op e l => return .scalar (← operation eval op e none l)
  | .binary op a b l => return .scalar (← operation eval op a (some b) l)
  | .ternary c a b _ => do if (← scalar eval c).isOne then eval a else eval b
  | .call name args l => return .scalar (← call p eval exec name args l)
  | .assign _ target value l => do
    let v ← scalar eval value
    assign eval target v l
    return .scalar v

/-! ## Statements -/

def holds (eval : Expr → Run Value) : Option Expr → Run Bool
  | some e => return (← scalar eval e).isOne
  | none => return true

def perform (eval : Expr → Run Value) : Option Expr → Run Unit
  | some e => do let _ ← eval e
  | none => return

def choose (eval : Expr → Run Value) (exec : Stmt → Run Flow) : List Arm → Run Flow
  | [] => return .next
  | arm :: arms => do
    if ← holds eval arm.condition then sequence exec arm.body.statements
    else choose eval exec arms

/-- Go on behind the body of a loop: with the rest of the loop, or behind it. -/
def afterBody (rest : Run Flow) : Flow → Run Flow
  | .next | .continue => rest
  | .break => return .next
  | .return value => return .return value

/-- Repeat a body and an update as long as a test succeeds; the test is not made once an exit is
pending. -/
def loop (test : Run Bool) (body : Run Flow) (update : Run Unit) : Nat → Run Flow
  | 0 => Run.outOfFuel
  | fuel + 1 => do
    if ← Run.exitPending then return .next
    if ← test then
      afterBody (do update; loop test body update fuel) (← body)
    else return .next

def element? (name key : String) : Run (Option Scalar) := do
  match ← Run.lookup name with
  | some (.array t) => return t[key]?
  | _ => return none

/-- Run a body with a variable bound to the elements with given keys in turn; a key that is gone
when its turn comes is passed over. -/
def forEach (name array : String) (body : Run Flow) : List String → Run Flow
  | [] => return .next
  | key :: keys => do
    if ← Run.exitPending then return .next
    match ← element? array key with
    | some value =>
      Run.store name (.scalar value)
      afterBody (forEach name array body keys) (← body)
    | none => forEach name array body keys

def keysOf (array : String) (location : Location) : Run (List String) := do
  match ← Run.lookup array with
  | some (.array t) => return Platform.keys t
  | _ => Run.fail (.forInNotArray array) location

def keys (eval : Expr → Run Value) : List Expr → Run (List String)
  | [] => return []
  | e :: es => return (← scalar eval e).text :: (← keys eval es)

def deleteArray (array : String) (location : Location) : Run Unit := do
  match ← Run.lookup array with
  | some (.scalar _) => Run.fail (.deleteNotArray array) location
  | _ => Run.remove array

def deleteElements (array : String) (keys : List String) (location : Location) : Run Unit := do
  match ← Run.lookup array with
  | none => return
  | some (.scalar _) => Run.fail (.deleteNotArray array) location
  | some (.array t) => Run.store array (.array (keys.foldl (·.erase ·) t))

/-- What a statement does, from the meaning of its parts; `fuel` bounds the rounds of a loop. -/
def statement (fuel : Nat) (eval : Expr → Run Value) (exec : Stmt → Run Flow) : Stmt → Run Flow
  | .expr e => do
    let _ ← eval e
    return .next
  | .choice arms _ => choose eval exec arms
  | .while c body _ => loop (holds eval (some c)) (sequence exec body.statements) (pure ()) fuel
  | .doWhile body c _ => do
    afterBody (loop (holds eval (some c)) (sequence exec body.statements) (pure ()) fuel)
      (← sequence exec body.statements)
  | .for init c update body _ => do
    perform eval init
    loop (holds eval c) (sequence exec body.statements) (perform eval update) fuel
  | .forIn name array body l => do
    forEach name array (sequence exec body.statements) (← keysOf array l)
  | .return none _ => return .return none
  | .return (some e) _ => return .return (some (← scalar eval e))
  | .break _ => return .break
  | .continue _ => return .continue
  | .delete array [] l => do
    deleteArray array l
    return .next
  | .delete array indices l => do
    deleteElements array (← keys eval indices) l
    return .next

end Eval

/-! ## Scripts -/

mutual

def Program.eval (p : Program) : Nat → Expr → Run Value
  | 0 => fun _ => Run.outOfFuel
  | fuel + 1 => Eval.expression p (p.eval fuel) (p.exec fuel)

def Program.exec (p : Program) : Nat → Stmt → Run Flow
  | 0 => fun _ => Run.outOfFuel
  | fuel + 1 => Eval.statement fuel (p.eval fuel) (p.exec fuel)

end

end PatternAction
