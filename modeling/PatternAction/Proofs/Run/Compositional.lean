import PatternAction.Proofs.Run.Asks

/-!
What a script does is put together from what its parts do.  A relation between runs, and with it a
property of runs, is compositional if the allowed steps have it and every way of putting runs
together keeps it.  The lemmas below go once through all constructs of the language: a construct
that asks for nothing but what is allowed has a compositional relation to its counterpart without
places if its parts have it.  What holds of a whole script follows by an induction over its text, or
over the fuel, that has to look at no construct again.
-/

set_option autoImplicit false
set_option relaxedAutoImplicit false

namespace PatternAction

private theorem Eval.hasFieldSign_fieldName (s : Scalar) :
    hasFieldSign (Eval.fieldName s) = true := by
  unfold Eval.fieldName hasFieldSign
  split <;> simp [String.toList_append]

variable [Platform]

/-- The allowed steps have a relation, and what is put together from related runs has it too.
Taking a record counts as a step, since it fails for the reason that it finds. -/
structure Stepwise (allowed : Licence) (T : ∀ {α : Type}, Run α → Run α → Prop) : Prop where
  reads : ∀ s : Step, s.reads = true → allowed s
  pure : ∀ {α : Type} (a : α), T (Pure.pure a) (Pure.pure a)
  bind : ∀ {α β : Type} {x y : Run α} {f g : α → Run β},
    T x y → (∀ a, T (f a) (g a)) → T (x >>= f) (y >>= g)
  withFrame : ∀ {α : Type} (frame : Scope) {body body' : Run α},
    T body body' → T (Run.withFrame frame body) (Run.withFrame frame body')
  step : ∀ s : Step, allowed s → T s.run s.run
  fail : ∀ {α : Type} (cause : RunCause) (location : Option Location),
    (∀ op, cause = .missingOperand op → allowed.MayLack op) →
    T (Run.fail cause location : Run α) (Run.fail cause (location.map fun _ => .unknown))
  advance : allowed .advance? → T Run.advance Run.advance

/-- Besides, allowed assignments have the relation.  An assignment looks at its variable before it
binds it, so it may have a relation that the binding alone has not. -/
structure Compositional (allowed : Licence) (T : ∀ {α : Type}, Run α → Run α → Prop) : Prop
    extends Stepwise allowed T where
  assign : ∀ (name : String) (value : Scalar) (l : Location), allowed.assign name →
    T (Eval.setVariable name value l) (Eval.setVariable name value .unknown)

theorem Stepwise.compositional {allowed : Licence} [allowed.Lenient]
    {T : ∀ {α : Type}, Run α → Run α → Prop} (c : Stepwise allowed T) :
    Compositional allowed T := by
  refine ⟨c, fun name value l ok => ?_⟩
  have store : T (Run.store name (.scalar value)) (Run.store name (.scalar value)) :=
    c.step (.store name (.scalar value)) (Licence.Lenient.binds name ok value)
  have look : T (Run.lookup name) (Run.lookup name) := c.step (.lookup name) (c.reads _ rfl)
  refine c.bind look fun (bound : Option Value) => ?_
  match bound with
  | some (.array t) => exact c.fail (.scalarToArray name) (some l) nofun
  | some (.scalar s) => exact store
  | none => exact store

namespace Compositional

variable {α : Type} {allowed : Licence} {T : ∀ {α : Type}, Run α → Run α → Prop}

omit [Platform] in
theorem either {p : Prop} [Decidable p] {x y x' y' : Run α} (hx : T x x') (hy : T y y') :
    T (if p then x else y) (if p then x' else y') := by
  split
  · exact hx
  · exact hy

variable (c : Compositional allowed T)
include c

private theorem exitPending : T Run.exitPending Run.exitPending :=
  c.bind (c.step .exitStatus? (c.reads _ rfl)) fun _ => c.pure _

private theorem lookup (name : String) : T (Run.lookup name) (Run.lookup name) :=
  c.step (.lookup name) (c.reads _ rfl)

private theorem global (name : String) : T (Run.global name) (Run.global name) :=
  c.step (.global name) (c.reads _ rfl)

private theorem pattern (text : String) : T (Run.pattern text) (Run.pattern text) :=
  c.step (.pattern text) (c.reads _ rfl)

/-! ## Functions that need no definition -/

section Builtins

open Builtin

private theorem scalarArg (args : List Value) (i : Nat) :
    T (scalarArg args i) (scalarArg args i) := by
  unfold Builtin.scalarArg
  split
  · exact c.pure _
  · exact c.fail _ none nofun
  · exact c.pure _

private theorem scalarArgs (i : Nat) (args : List Value) :
    T (scalarArgs i args) (scalarArgs i args) := by
  induction args generalizing i with
  | nil => exact c.pure _
  | cons v args ih =>
    cases v with
    | scalar s => exact c.bind (ih (i + 1)) fun _ => c.pure _
    | array t => exact c.fail _ none nofun

private theorem scalarArgOr (args : List Value) (i : Nat) {other : Run Scalar} (h : T other other) :
    T (scalarArgOr args i other) (scalarArgOr args i other) :=
  either (c.scalarArg args i) h

private theorem keeping (args : List Value) {answer : Run Scalar} (h : T answer answer) :
    T (keeping args answer) (keeping args answer) :=
  c.bind h fun _ => c.pure _

private theorem printed (separator : Scalar) (args : List Value) :
    T (printed separator args) (printed separator args) :=
  either (c.bind (c.global _) fun _ => c.pure _) (c.bind (c.scalarArgs 0 args) fun _ => c.pure _)

private theorem substituted (replace : Pattern → List Char → List Char → List Char)
    (args : List Value) : T (substituted replace args) (substituted replace args) := by
  refine c.bind (c.scalarArg args 0) fun pattern => ?_
  refine c.bind (c.scalarArg args 1) fun replacement => ?_
  refine c.bind (c.scalarArgOr args 2 (c.global _)) fun subject => ?_
  exact c.bind (c.pattern _) fun p => c.pure _

private theorem matched (args : List Value) : T (matched args) (matched args) := by
  refine c.bind (c.scalarArg args 0) fun text => ?_
  refine c.bind (c.scalarArg args 1) fun pattern => ?_
  refine c.bind (c.pattern _) fun (p : Pattern) => ?_
  split
  · exact c.pure _
  · exact c.pure _

private theorem measured (args : List Value) : T (measured args) (measured args) := by
  cases args with
  | nil => exact c.bind (c.global _) fun _ => c.pure _
  | cons v args =>
    cases v with
    | scalar s => exact c.pure _
    | array t => exact c.pure _

private theorem cut (args : List Value) : T (cut args) (cut args) := by
  refine c.bind (c.scalarArg args 0) fun text => ?_
  refine c.bind (c.scalarArg args 1) fun start => ?_
  exact either (c.pure _) (c.bind (c.scalarArg args 2) fun _ => c.pure _)

variable (free : ∀ s : Step, s.serves = true → allowed s)
include free

private theorem formatted (args : List Value) : T (formatted args) (formatted args) := by
  refine c.bind (c.scalarArgs 0 args) fun scalars => ?_
  cases scalars with
  | nil => exact c.pure _
  | cons format rest => exact c.step (.format _ _) (free _ rfl)

private theorem splitInto (args : List Value) : T (splitInto args) (splitInto args) := by
  refine c.bind (c.scalarArg args 0) fun text => ?_
  refine c.bind (c.scalarArgOr args 2 (c.global _)) fun separator => ?_
  exact c.bind (c.step (.fields _ _) (free _ rfl)) fun fields => c.pure _

private theorem takeRecord : T takeRecord takeRecord := by
  refine c.bind (c.step .advance? (free _ rfl)) fun outcome => ?_
  cases outcome with
  | ok more => exact c.pure _
  | error f => exact c.pure _

private theorem apply (b : Builtin) (args : List Value) : T (b.apply args) (b.apply args) := by
  cases b with
  | print =>
    refine c.keeping args (c.bind (c.global _) fun separator => ?_)
    refine c.bind (c.global _) fun terminator => ?_
    refine c.bind (c.printed _ args) fun line => ?_
    exact c.bind (c.step (.emit _) (free _ rfl)) fun _ => c.pure _
  | printf =>
    refine c.keeping args (c.bind (c.formatted free args) fun text => ?_)
    exact c.bind (c.step (.emit _) (free _ rfl)) fun _ => c.pure _
  | sprintf => exact c.keeping args (c.bind (c.formatted free args) fun _ => c.pure _)
  | getline => exact c.keeping args (c.takeRecord free)
  | next => exact c.keeping args (c.bind (c.advance (free _ rfl)) fun _ => c.pure _)
  | nextfile =>
    exact c.keeping args (c.bind (c.step .skipRecords (free _ rfl)) fun _ => c.pure _)
  | exit =>
    refine c.keeping args (c.bind (c.scalarArg args 0) fun status => ?_)
    exact c.bind (c.step (.requestExit _) (free _ rfl)) fun _ => c.pure _
  | gsub => exact c.keeping args (c.substituted _ args)
  | sub => exact c.keeping args (c.substituted _ args)
  | «match» => exact c.keeping args (c.matched args)
  | index =>
    refine c.keeping args (c.bind (c.scalarArg args 0) fun text => ?_)
    exact c.bind (c.scalarArg args 1) fun _ => c.pure _
  | length => exact c.keeping args (c.measured args)
  | split => exact c.splitInto free args
  | substr => exact c.keeping args (c.cut args)
  | tolower => exact c.keeping args (c.bind (c.scalarArg args 0) fun _ => c.pure _)
  | toupper => exact c.keeping args (c.bind (c.scalarArg args 0) fun _ => c.pure _)

end Builtins

/-! ## Operators -/

section Expressions

open Eval

variable {eval eval' : Expr → Run Value}

private theorem scalar {e : Expr} (h : T (eval e) (eval' e.unplaced)) :
    T (scalar eval e) (scalar eval' e.unplaced) := by
  refine c.bind h fun v => ?_
  cases v with
  | scalar s => exact c.pure _
  | array t =>
    rw [e.render_unplaced, e.location?_unplaced]
    exact c.fail _ _ nofun

private theorem map (f : Scalar → Scalar) {e : Expr} (h : T (eval e) (eval' e.unplaced)) :
    T (map eval f e) (map eval' f e.unplaced) :=
  c.bind (c.scalar h) fun _ => c.pure _

private theorem field {e : Expr} (h : T (eval e) (eval' e.unplaced)) :
    T (field eval e) (field eval' e.unplaced) :=
  c.bind (c.scalar h) fun _ => c.pure _

private theorem operand (op : Operator) {right? : Option Expr} (l : Location)
    (lack : right? = none → allowed.MayLack op) {f g : Expr → Run α}
    (h : ∀ e ∈ right?, T (f e) (g e.unplaced)) :
    T (operand op right? l >>= f) (operand op (right?.map Expr.unplaced) .unknown >>= g) := by
  cases right? with
  | none =>
    refine c.fail (.missingOperand op) (some l) fun op' same => ?_
    cases same
    exact lack rfl
  | some e => exact h e rfl

section Operators

variable (op : Operator) {left : Expr} {right? : Option Expr} (l : Location)
variable (lack : right? = none → allowed.MayLack op)
variable (hleft : T (eval left) (eval' left.unplaced))
variable (hright : ∀ e ∈ right?, T (eval e) (eval' e.unplaced))
include lack hleft hright

private theorem map₂ (f : Scalar → Scalar → Scalar) :
    T (map₂ eval f op left right? l)
      (map₂ eval' f op left.unplaced (right?.map Expr.unplaced) .unknown) := by
  refine c.bind (c.scalar hleft) fun a => c.operand op l lack fun right mem => ?_
  exact c.bind (c.scalar (hright right mem)) fun b => c.pure _

private theorem logical (settled : Bool) :
    T (logical eval settled op left right? l)
      (logical eval' settled op left.unplaced (right?.map Expr.unplaced) .unknown) := by
  refine c.bind (c.scalar hleft) fun a => either (c.pure _) ?_
  refine c.operand op l lack fun right mem => ?_
  exact c.bind (c.scalar (hright right mem)) fun b => c.pure _

omit hright

private theorem matching (expected : Bool) :
    T (matching eval expected op left right? l)
      (matching eval' expected op left.unplaced (right?.map Expr.unplaced) .unknown) := by
  refine c.operand op l lack fun right _ => ?_
  cases right with
  | pattern text =>
    refine c.bind (c.scalar hleft) fun subject => ?_
    exact c.bind (c.pattern _) fun p => c.pure _
  | _ => exact c.fail .patternExpected (some l) nofun

private theorem membership :
    T (membership eval op left right? l)
      (membership eval' op left.unplaced (right?.map Expr.unplaced) .unknown) := by
  refine c.operand op l lack fun right _ => ?_
  cases right with
  | var name _ =>
    refine c.bind (c.scalar hleft) fun key => ?_
    refine c.bind (c.lookup name) fun (bound : Option Value) => ?_
    match bound with
    | some (.array t) => exact c.pure _
    | some (.scalar _) => exact c.fail (.notArray name) (some l) nofun
    | none => exact c.pure _
  | _ => exact c.fail .arrayNameExpected (some l) nofun

end Operators

private theorem operation (op : Operator) {left : Expr} {right? : Option Expr} (l : Location)
    (lack : right? = none → op.isBinary = true → allowed.MayLack op)
    (hleft : T (eval left) (eval' left.unplaced))
    (hright : ∀ e ∈ right?, T (eval e) (eval' e.unplaced)) :
    T (operation eval op left right? l)
      (operation eval' op left.unplaced (right?.map Expr.unplaced) .unknown) := by
  cases op with
  | «and» | «or» => exact c.logical _ l (lack · rfl) hleft hright _
  | «match» | notMatch => exact c.matching _ l (lack · rfl) hleft _
  | «in» => exact c.membership _ l (lack · rfl) hleft
  | not | unaryPos | unaryNeg | preInc | postInc | preDec | postDec => exact c.map _ hleft
  | dollar => exact c.bind (c.field hleft) fun name => c.global name
  | exponent | add | subtract | multiply | divide | modulo
  | eq | ne | lt | le | gt | ge | concatenation =>
    exact c.map₂ _ l (lack · rfl) hleft hright _

/-! ## Variables and elements -/

private theorem element (name : String) {index : Expr} (l : Location)
    (h : T (eval index) (eval' index.unplaced)) :
    T (element eval name index l) (element eval' name index.unplaced .unknown) := by
  refine c.bind (c.scalar h) fun key => ?_
  refine c.bind (c.lookup name) fun (bound : Option Value) => ?_
  match bound with
  | some (.array t) => exact c.pure _
  | some (.scalar _) => exact c.fail (.notArray name) (some l) nofun
  | none => exact c.pure _

private theorem setElement {name : String} (key value : Scalar) (l : Location)
    (h : BindsArrays allowed name) :
    T (setElement name key value l) (setElement name key value .unknown) := by
  have table : T (tableOf name l) (tableOf name .unknown) := by
    refine c.bind (c.lookup name) fun (bound : Option Value) => ?_
    match bound with
    | none => exact c.pure _
    | some (.array t) => exact c.pure _
    | some (.scalar s) => exact either (c.pure _) (c.fail (.notArray name) (some l) nofun)
  exact c.bind table fun t => c.step (.store _ _) (h _)

private theorem setField {e : Expr} (value : Scalar)
    (write : ∀ name value, hasFieldSign name = true → allowed (.setGlobal name value))
    (h : T (eval e) (eval' e.unplaced)) :
    T (do Run.setGlobal (← Eval.field eval e) value)
      (do Run.setGlobal (← Eval.field eval' e.unplaced) value) := by
  have named (s : Scalar) :
      T (Run.setGlobal (Eval.fieldName s) value) (Run.setGlobal (Eval.fieldName s) value) :=
    c.step (.setGlobal _ value) (write _ _ (Eval.hasFieldSign_fieldName s))
  simp only [Eval.field, bind_assoc, pure_bind]
  exact c.bind (c.scalar h) named

private theorem write {target : Expr} (value : Scalar) (l : Location)
    (write : target.AsksWrite allowed) (h : ∀ e ∈ target.children, T (eval e) (eval' e.unplaced)) :
    T (Eval.assign eval target value l)
      (Eval.assign eval' target.unplaced value .unknown) := by
  have bad : T (Run.fail (.badTarget target.render) (some l) : Run Unit)
      (Run.fail (.badTarget target.unplaced.render) (some .unknown)) := by
    rw [target.render_unplaced]
    exact c.fail _ (some l) nofun
  cases target with
  | var name _ => exact c.assign name value l write
  | elem name index _ =>
    have key := c.scalar (h index (List.mem_singleton_self _))
    exact c.bind key fun key => c.setElement key value l write
  | unary op e _ =>
    cases op with
    | dollar => exact c.setField value write (h e (List.mem_singleton_self _))
    | _ => exact bad
  | binary op e _ _ =>
    cases op with
    | dollar => exact c.setField value write (h e List.mem_cons_self)
    | _ => exact bad
  | _ => exact bad

/-! ## Calls -/

private theorem arguments {args : List Expr} (h : ∀ e ∈ args, T (eval e) (eval' e.unplaced)) :
    T (arguments eval args) (arguments eval' (Expr.unplacedList args)) := by
  induction args with
  | nil => exact c.pure _
  | cons e es ih =>
    obtain ⟨first, others⟩ := List.forall_mem_cons.mp h
    have tail := ih others
    cases e with
    | pattern text => exact c.bind tail fun _ => c.pure _
    | _ => exact c.bind first fun _ => c.bind tail fun _ => c.pure _

private theorem writeBack {args : List Expr} (values : List Value)
    (back : ∀ e ∈ args, e.AsksBack allowed) :
    T (writeBack args values) (writeBack (Expr.unplacedList args) values) := by
  induction args generalizing values with
  | nil => exact c.pure _
  | cons e es ih =>
    obtain ⟨first, others⟩ := List.forall_mem_cons.mp back
    cases values with
    | nil => cases e <;> exact c.pure _
    | cons v vs =>
      have tail := ih vs others
      cases e with
      | var name _ =>
        cases v with
        | array t => exact c.bind (c.step (.store name (.array t)) (first _)) fun _ => tail
        | scalar s => exact tail
      | _ => exact tail

omit [Platform] in
omit c in
private theorem length_unplacedList (es : List Expr) :
    (Expr.unplacedList es).length = es.length := by
  rw [Expr.unplacedList_eq_map, List.length_map]

private theorem callBuiltin (b : Builtin) {args : List Expr} (l : Location)
    (free : ∀ s : Step, s.serves = true → allowed s) (back : ∀ e ∈ args, e.AsksBack allowed)
    (h : ∀ e ∈ args, T (eval e) (eval' e.unplaced)) :
    T (callBuiltin eval b args l) (callBuiltin eval' b (Expr.unplacedList args) .unknown) := by
  unfold Eval.callBuiltin
  rw [length_unplacedList]
  refine either ?_ (c.fail _ (some l) nofun)
  refine c.bind (c.arguments h) fun values => ?_
  refine c.bind (c.apply free b values) fun (result, values) => ?_
  exact c.bind (c.writeBack values back) fun _ => c.pure _

end Expressions

section Bodies

open Eval

variable {eval eval' : Expr → Run Value} {exec exec' : Stmt → Run Flow}

private theorem sequence {ss : List Stmt} (h : ∀ s ∈ ss, T (exec s) (exec' s.unplaced)) :
    T (sequence exec ss) (sequence exec' (ss.map Stmt.unplaced)) := by
  induction ss with
  | nil => exact c.pure _
  | cons s ss ih =>
    obtain ⟨first, others⟩ := List.forall_mem_cons.mp h
    refine c.bind c.exitPending fun _ => either (c.pure _) (c.bind first fun flow => ?_)
    cases flow with
    | next => exact ih others
    | «break» => exact c.pure _
    | «continue» => exact c.pure _
    | «return» value => exact c.pure _

private theorem body {b : Block} (h : ∀ s ∈ b.statements, T (exec s) (exec' s.unplaced)) :
    T (Eval.sequence exec b.statements) (Eval.sequence exec' b.unplaced.statements) := by
  rw [Block.statements_unplaced]
  exact c.sequence h

private theorem callFunction {f : Function} {args : List Expr} (l : Location)
    (back : ∀ e ∈ args, e.AsksBack allowed) (h : ∀ e ∈ args, T (eval e) (eval' e.unplaced))
    (hbody : ∀ s ∈ f.body, T (exec s) (exec' s.unplaced)) :
    T (callFunction eval exec f args l)
      (callFunction eval' exec' f.unplaced (Expr.unplacedList args) .unknown) := by
  unfold Eval.callFunction
  rw [length_unplacedList]
  refine either ?_ (c.fail _ (some l) nofun)
  refine c.bind (c.arguments h) fun values => ?_
  refine c.bind (c.withFrame _ (c.sequence hbody)) fun (flow, frame) => ?_
  exact c.bind (c.writeBack _ back) fun _ => c.pure _

private theorem call {p : Program} (name : String) {args : List Expr} (l : Location)
    (free : ∀ s : Step, s.serves = true → allowed s) (back : ∀ e ∈ args, e.AsksBack allowed)
    (h : ∀ e ∈ args, T (eval e) (eval' e.unplaced))
    (hbody : ∀ s ∈ p.bodyOf name, T (exec s) (exec' s.unplaced)) :
    T (call p eval exec name args l)
      (call p.unplaced eval' exec' name (Expr.unplacedList args) .unknown) := by
  unfold Eval.call
  unfold Program.bodyOf at hbody
  cases named : Builtin.ofName? name with
  | some b => exact c.callBuiltin b l free back h
  | none =>
    rw [p.function?_unplaced]
    cases found : p.function? name with
    | none => exact c.fail _ (some l) nofun
    | some f =>
      rw [named, found] at hbody
      exact c.callFunction l back h hbody

/-! ## Expressions -/

theorem expression {p : Program} {e : Expr} (own : e.Own allowed)
    (h : ∀ part ∈ e.parts, T (eval part) (eval' part.unplaced))
    (hbody : ∀ s ∈ p.bodyAt e, T (exec s) (exec' s.unplaced)) :
    T (expression p eval exec e) (expression p.unplaced eval' exec' e.unplaced) := by
  cases e with
  | const text => exact c.pure _
  | pattern text => exact c.fail _ none nofun
  | var name l => exact c.bind (c.lookup name) fun _ => c.pure _
  | elem name index l =>
    exact c.bind (c.element name l (h index (List.mem_singleton_self _))) fun _ => c.pure _
  | unary op e l =>
    have left := h e (List.mem_singleton_self _)
    exact c.bind (c.operation op l (fun _ => own) left nofun) fun _ => c.pure _
  | binary op a b l =>
    have right : ∀ e ∈ some b, T (eval e) (eval' e.unplaced) := by
      rintro e ⟨⟩
      exact h _ (List.mem_cons_of_mem _ (List.mem_singleton_self _))
    exact c.bind (c.operation op l nofun (h a List.mem_cons_self) right) fun _ => c.pure _
  | ternary test a b l =>
    obtain ⟨htest, branches⟩ := List.forall_mem_cons.mp h
    obtain ⟨ha, rest⟩ := List.forall_mem_cons.mp branches
    exact c.bind (c.scalar htest) fun _ => either ha (rest b (List.mem_singleton_self _))
  | call name args l =>
    exact c.bind (c.call name l own.1 own.2 h hbody) fun _ => c.pure _
  | assign form target value l =>
    obtain ⟨hvalue, inside⟩ := List.forall_mem_cons.mp h
    refine c.bind (c.scalar hvalue) fun v => ?_
    exact c.bind (c.write v l own inside) fun _ => c.pure _

/-! ## Statements -/

private theorem holds {condition : Option Expr}
    (h : ∀ e ∈ condition, T (eval e) (eval' e.unplaced)) :
    T (holds eval condition) (holds eval' (condition.map Expr.unplaced)) := by
  cases condition with
  | none => exact c.pure _
  | some e => exact c.bind (c.scalar (h e rfl)) fun _ => c.pure _

private theorem perform {e? : Option Expr} (h : ∀ e ∈ e?, T (eval e) (eval' e.unplaced)) :
    T (perform eval e?) (perform eval' (e?.map Expr.unplaced)) := by
  cases e? with
  | none => exact c.pure _
  | some e => exact c.bind (h e rfl) fun _ => c.pure _

private theorem choose {arms : List Arm}
    (hcond : ∀ arm ∈ arms, ∀ e ∈ arm.condition, T (eval e) (eval' e.unplaced))
    (hbody : ∀ arm ∈ arms, ∀ s ∈ arm.body.statements, T (exec s) (exec' s.unplaced)) :
    T (choose eval exec arms) (choose eval' exec' (Arm.unplacedList arms)) := by
  induction arms with
  | nil => exact c.pure _
  | cons arm arms ih =>
    obtain ⟨condition, block⟩ := arm
    obtain ⟨firstCond, otherConds⟩ := List.forall_mem_cons.mp hcond
    obtain ⟨firstBody, otherBodies⟩ := List.forall_mem_cons.mp hbody
    refine c.bind (c.holds firstCond) fun _ => either ?_ (ih otherConds otherBodies)
    exact c.body firstBody

theorem afterBody {rest rest' : Run Flow} (h : T rest rest') (flow : Flow) :
    T (afterBody rest flow) (afterBody rest' flow) := by
  cases flow with
  | next => exact h
  | «continue» => exact h
  | «break» => exact c.pure _
  | «return» value => exact c.pure _

private theorem loop {test test' : Run Bool} {body body' : Run Flow} {update update' : Run Unit}
    (spare : T (Run.outOfFuel : Run Flow) Run.outOfFuel)
    (htest : T test test') (hbody : T body body') (hupdate : T update update') (fuel : Nat) :
    T (loop test body update fuel) (loop test' body' update' fuel) := by
  induction fuel with
  | zero => exact spare
  | succ fuel ih =>
    refine c.bind c.exitPending fun _ => either (c.pure _) ?_
    refine c.bind htest fun _ => either ?_ (c.pure _)
    exact c.bind hbody fun flow => c.afterBody (c.bind hupdate fun _ => ih) flow

private theorem element? (name key : String) : T (element? name key) (element? name key) := by
  refine c.bind (c.lookup name) fun (bound : Option Value) => ?_
  match bound with
  | some (.array t) => exact c.pure _
  | some (.scalar s) => exact c.pure _
  | none => exact c.pure _

private theorem forEach {name : String} (array : String) {body body' : Run Flow}
    (hname : Binds allowed name) (hbody : T body body') (keys : List String) :
    T (forEach name array body keys) (forEach name array body' keys) := by
  induction keys with
  | nil => exact c.pure _
  | cons key keys ih =>
    refine c.bind c.exitPending fun _ => either (c.pure _) ?_
    refine c.bind (c.element? array key) fun value? => ?_
    cases value? with
    | none => exact ih
    | some value =>
      refine c.bind (c.step (.store _ _) (hname _)) fun _ => ?_
      exact c.bind hbody fun flow => c.afterBody ih flow

private theorem keysOf (array : String) (l : Location) :
    T (keysOf array l) (keysOf array .unknown) := by
  refine c.bind (c.lookup array) fun (bound : Option Value) => ?_
  match bound with
  | some (.array t) => exact c.pure _
  | some (.scalar s) => exact c.fail (.forInNotArray array) (some l) nofun
  | none => exact c.fail (.forInNotArray array) (some l) nofun

private theorem keys {es : List Expr} (h : ∀ e ∈ es, T (eval e) (eval' e.unplaced)) :
    T (keys eval es) (keys eval' (es.map Expr.unplaced)) := by
  induction es with
  | nil => exact c.pure _
  | cons e es ih =>
    obtain ⟨first, others⟩ := List.forall_mem_cons.mp h
    exact c.bind (c.scalar first) fun _ => c.bind (ih others) fun _ => c.pure _

private theorem deleteArray {array : String} (l : Location) (h : allowed (.remove array)) :
    T (deleteArray array l) (deleteArray array .unknown) := by
  refine c.bind (c.lookup array) fun (bound : Option Value) => ?_
  match bound with
  | some (.scalar s) => exact c.fail (.deleteNotArray array) (some l) nofun
  | some (.array t) => exact c.step (.remove array) h
  | none => exact c.step (.remove array) h

private theorem deleteElements {array : String} (ks : List String) (l : Location)
    (h : BindsArrays allowed array) :
    T (deleteElements array ks l) (deleteElements array ks .unknown) := by
  refine c.bind (c.lookup array) fun (bound : Option Value) => ?_
  match bound with
  | none => exact c.pure _
  | some (.scalar s) => exact c.fail (.deleteNotArray array) (some l) nofun
  | some (.array t) => exact c.step (.store _ _) (h _)

theorem statement (fuel : Nat) {s : Stmt} (own : s.Own allowed)
    (spare : s.isLoop = true → T (Run.outOfFuel : Run Flow) Run.outOfFuel)
    (heval : ∀ e ∈ s.exprs, T (eval e) (eval' e.unplaced))
    (hexec : ∀ t ∈ s.stmts, T (exec t) (exec' t.unplaced)) :
    T (statement fuel eval exec s) (statement fuel eval' exec' s.unplaced) := by
  have condition {e : Expr} (h : T (eval e) (eval' e.unplaced)) :
      T (Eval.holds eval (some e)) (Eval.holds eval' (some e.unplaced)) :=
    c.bind (c.scalar h) fun _ => c.pure _
  cases s with
  | expr e => exact c.bind (heval e (List.mem_singleton_self _)) fun _ => c.pure _
  | choice arms l =>
    refine c.choose (fun arm mem e inside => ?_) fun arm mem t inside => ?_
    · exact heval e (List.mem_flatMap.mpr ⟨arm, mem, Option.mem_toList.mpr inside⟩)
    · exact hexec t (List.mem_flatMap.mpr ⟨arm, mem, inside⟩)
  | «while» e b l =>
    have test := condition (heval e (List.mem_singleton_self _))
    exact c.loop (spare rfl) test (c.body hexec) (c.pure _) fuel
  | doWhile b e l =>
    have test := condition (heval e (List.mem_singleton_self _))
    have body := c.body (b := b) hexec
    exact c.bind body fun flow => c.afterBody (c.loop (spare rfl) test body (c.pure _) fuel) flow
  | «for» init test update b l =>
    simp only [Stmt.exprs, List.forall_mem_append, Option.mem_toList] at heval
    obtain ⟨⟨hinit, htest⟩, hupdate⟩ := heval
    refine c.bind (c.perform hinit) fun _ => ?_
    exact c.loop (spare rfl) (c.holds htest) (c.body hexec) (c.perform hupdate) fuel
  | forIn name array b l =>
    refine c.bind (c.keysOf array l) fun ks => ?_
    exact c.forEach array own (c.body hexec) ks
  | «return» value l =>
    cases value with
    | none => exact c.pure _
    | some e => exact c.bind (c.scalar (heval e (List.mem_singleton_self _))) fun _ => c.pure _
  | «break» l => exact c.pure _
  | «continue» l => exact c.pure _
  | delete array indices l =>
    cases indices with
    | nil => exact c.bind (c.deleteArray l own) fun _ => c.pure _
    | cons e es =>
      refine c.bind (c.keys heval) fun ks => ?_
      exact c.bind (c.deleteElements ks l own) fun _ => c.pure _

end Bodies

/-! ## Phases -/

section Phases

open Phases

variable {eval eval' : Expr → Run Value} {exec exec' : Stmt → Run Flow}

private theorem blocks {bs : List Block}
    (h : ∀ b ∈ bs, ∀ s ∈ b.statements, T (exec s) (exec' s.unplaced)) :
    T (blocks exec bs) (blocks exec' (bs.map Block.unplaced)) := by
  induction bs with
  | nil => exact c.pure _
  | cons b bs ih =>
    obtain ⟨first, others⟩ := List.forall_mem_cons.mp h
    refine c.bind c.exitPending fun _ => either (c.pure _) ?_
    exact c.bind (c.body first) fun _ => ih others

theorem applies {guard : Option Expr} (h : ∀ e ∈ guard, T (eval e) (eval' e.unplaced)) :
    T (applies eval guard) (applies eval' (guard.map Expr.unplaced)) := by
  cases guard with
  | none => exact c.pure _
  | some e =>
    have holds := c.holds h
    cases e with
    | pattern text =>
      refine c.bind (c.global "$0") fun record => ?_
      exact c.bind (c.pattern text) fun p => c.pure _
    | _ => exact holds

variable (free : ∀ s : Step, s.binds = false → allowed s)
include free

private theorem rounds {rule : Rule} (hguard : ∀ e ∈ rule.guard, T (eval e) (eval' e.unplaced))
    (hbody : ∀ s ∈ rule.statements, T (exec s) (exec' s.unplaced)) (count : Nat) :
    T (rounds eval exec rule count) (rounds eval' exec' rule.unplaced count) := by
  have guard : T (Phases.applies eval rule.guard) (Phases.applies eval' rule.unplaced.guard) := by
    rw [rule.guard_unplaced]
    exact c.applies hguard
  induction count with
  | zero => exact c.pure _
  | succ count ih =>
    refine c.bind c.exitPending fun _ => either (c.pure _) ?_
    refine c.bind (c.advance (free _ rfl)) fun _ => either ?_ (c.pure _)
    refine c.bind guard fun _ => either ?_ ih
    exact c.bind (c.body hbody) fun _ => ih

private theorem rules {rs : List Rule}
    (hguards : ∀ r ∈ rs, ∀ e ∈ r.guard, T (eval e) (eval' e.unplaced))
    (hbodies : ∀ r ∈ rs, ∀ s ∈ r.statements, T (exec s) (exec' s.unplaced)) :
    T (rules eval exec rs) (rules eval' exec' (rs.map Block.unplaced)) := by
  induction rs with
  | nil => exact c.pure _
  | cons r rs ih =>
    obtain ⟨guard, guards⟩ := List.forall_mem_cons.mp hguards
    obtain ⟨body, bodies⟩ := List.forall_mem_cons.mp hbodies
    refine c.bind c.exitPending fun _ => either (c.pure _) ?_
    refine c.bind (c.step .resetRecords (free _ rfl)) fun _ => ?_
    refine c.bind (c.step .recordCount (free _ rfl)) fun count => ?_
    exact c.bind (c.rounds free guard body count) fun _ => ih guards bodies

/-- What a whole run does, from what the guards and the statements of the script do. -/
theorem run {p : Program} {fuel more : Nat}
    (hexec : ∀ s ∈ p.statements, T (p.exec fuel s) (p.unplaced.exec more s.unplaced))
    (hguard : ∀ r ∈ p.rules, ∀ e ∈ r.guard, T (p.eval fuel e) (p.unplaced.eval more e.unplaced)) :
    T (p.run fuel) (p.unplaced.run more) := by
  have begins := c.blocks fun b mem s inside => hexec s (p.mem_statements_of_begin mem inside)
  have ends := c.blocks fun b mem s inside => hexec s (p.mem_statements_of_end mem inside)
  have bodies := fun r mem s inside => hexec s (p.mem_statements_of_rule (r := r) mem inside)
  refine c.bind begins fun _ => c.bind (c.rules free hguard bodies) fun _ => ?_
  refine c.bind (c.step .takeExit (free _ rfl)) fun pending => c.bind ends fun _ => ?_
  exact c.bind (c.step .exitStatus? (free _ rfl)) fun _ => c.pure _

end Phases

/-! ## Whole scripts -/

section Scripts

variable {p : Program} (spare : ∀ {α : Type}, T (Run.outOfFuel : Run α) Run.outOfFuel)
include spare

-- Expressions and statements call each other only with less fuel, so one induction does for both.
private theorem evalExec (hp : ∀ f ∈ p.functions, Stmt.AllAsk allowed f.body) (fuel : Nat) :
    (∀ e : Expr, e.Asks allowed → T (p.eval fuel e) (p.unplaced.eval fuel e.unplaced)) ∧
      ∀ s : Stmt, s.Asks allowed → T (p.exec fuel s) (p.unplaced.exec fuel s.unplaced) := by
  induction fuel with
  | zero => exact ⟨fun _ _ => spare, fun _ _ => spare⟩
  | succ fuel ih =>
    refine ⟨fun e h => ?_, fun s h => ?_⟩
    · refine c.expression h.own (fun part mem => ih.1 part (h.parts part mem)) fun s mem => ?_
      obtain ⟨name, -, called⟩ := Program.exists_of_mem_bodyAt mem
      obtain ⟨f, defined, -, inside⟩ := Program.exists_of_mem_bodyOf called
      exact ih.2 s (Stmt.allAsk_iff.mp (hp f defined) s inside)
    · exact c.statement fuel h.own (fun _ => spare) (fun e mem => ih.1 e (h.exprs e mem))
        fun t mem => ih.2 t (h.stmts t mem)

theorem evaluates (hp : ∀ f ∈ p.functions, Stmt.AllAsk allowed f.body) (fuel : Nat) {e : Expr}
    (h : e.Asks allowed) : T (p.eval fuel e) (p.unplaced.eval fuel e.unplaced) :=
  (c.evalExec spare hp fuel).1 e h

theorem executes (hp : ∀ f ∈ p.functions, Stmt.AllAsk allowed f.body) (fuel : Nat) {s : Stmt}
    (h : s.Asks allowed) : T (p.exec fuel s) (p.unplaced.exec fuel s.unplaced) :=
  (c.evalExec spare hp fuel).2 s h

theorem runs (free : ∀ s : Step, s.binds = false → allowed s) (hp : p.Asks allowed) (fuel : Nat) :
    T (p.run fuel) (p.unplaced.run fuel) := by
  refine c.run free (fun s mem => ?_) fun r mem e guard => ?_
  · exact c.executes spare hp.functions fuel (hp.statements s mem)
  · exact c.evaluates spare hp.functions fuel (hp.guards r mem e guard)

end Scripts

end Compositional

/-! ## Properties of single runs -/

section Properties

variable {allowed : Licence} {P : ∀ {α : Type}, Run α → Prop}
variable {eval : Expr → Run Value} {exec : Stmt → Run Flow}

theorem Compositional.expression_of (c : Compositional allowed fun x _ => P x) {p : Program}
    {e : Expr} (own : e.Own allowed) (h : ∀ part ∈ e.parts, P (eval part))
    (hbody : ∀ s ∈ p.bodyAt e, P (exec s)) : P (Eval.expression p eval exec e) :=
  @expression _ _ _ c eval eval exec exec p e own h hbody

theorem Compositional.statement_of (c : Compositional allowed fun x _ => P x) (fuel : Nat)
    {s : Stmt} (own : s.Own allowed) (spare : s.isLoop = true → P (Run.outOfFuel : Run Flow))
    (heval : ∀ e ∈ s.exprs, P (eval e)) (hexec : ∀ t ∈ s.stmts, P (exec t)) :
    P (Eval.statement fuel eval exec s) :=
  @statement _ _ _ c eval eval exec exec fuel s own spare heval hexec

theorem Compositional.run_of (c : Compositional allowed fun x _ => P x)
    (free : ∀ s : Step, s.binds = false → allowed s) {p : Program} {fuel : Nat}
    (hexec : ∀ s ∈ p.statements, P (p.exec fuel s))
    (hguard : ∀ r ∈ p.rules, ∀ e ∈ r.guard, P (p.eval fuel e)) : P (p.run fuel) :=
  @run _ _ _ c free p fuel fuel hexec hguard

end Properties

end PatternAction
