import PatternAction.Printf
import PatternAction.Record
import PatternAction.RunFault

/-!
The state of a running script and the elementary steps on it.  Everything a script does is put
together from these steps.

A name means the global of that name if there is one, otherwise a binding of the innermost call,
and outside of calls always a global.
-/

set_option autoImplicit false
set_option relaxedAutoImplicit false

namespace PatternAction

structure Machine where
  globals : Scope
  /-- The bindings of the active calls, the innermost first. -/
  frames : List Scope
  records : Records
  cache : Pattern.Cache
  /-- The status asked for by an exit. -/
  exit? : Option Int
  /-- What has been written so far. -/
  output : String

namespace Machine

def standardGlobals : Scope :=
  [("FS", " "), ("OFS", " "), ("ORS", "\n"), ("OFMT", "%.6g"), ("FILENAME", ""), ("NR", "0"),
    ("FNR", "0"), ("NF", "0")].foldl (fun scope (name, text) => scope.setScalar name ⟨text⟩) .empty

def ofRecords (records : Records) : Machine :=
  ⟨standardGlobals, [], records, .empty, none, ""⟩

def setGlobal (m : Machine) (name text : String) : Machine :=
  { m with globals := m.globals.setScalar name ⟨text⟩ }

def scopeOf (m : Machine) (name : String) : Scope :=
  if m.globals.contains name then m.globals else m.frames.headD m.globals

/-- Change the bindings in which a name is looked up and bound. -/
def mapScopeOf (m : Machine) (name : String) (f : Scope → Scope) : Machine :=
  if m.globals.contains name then { m with globals := f m.globals }
  else match m.frames with
    | [] => { m with globals := f m.globals }
    | frame :: frames => { m with frames := f frame :: frames }

def lookup (m : Machine) (name : String) : Option Value :=
  (m.scopeOf name).get? name

end Machine

/-- A step of a running script: it changes the state, and may fail; what it did before it failed
remains done. -/
abbrev Run := EStateM RunHalt Machine

namespace Run

variable [Platform] {α : Type}

/-! ## Failing -/

def fail (cause : RunCause) (location : Option Location) : Run α :=
  throw (.fault (.failure cause location))

def outOfFuel : Run α :=
  throw .outOfFuel

/-! ## Names -/

def lookup (name : String) : Run (Option Value) :=
  return (← get).lookup name

def store (name : String) (value : Value) : Run Unit :=
  modify (·.mapScopeOf name (·.insert name value))

def remove (name : String) : Run Unit :=
  modify (·.mapScopeOf name (·.erase name))

def global (name : String) : Run Scalar :=
  return (← get).globals.scalar name

def setGlobal (name : String) (value : Scalar) : Run Unit :=
  modify fun m => { m with globals := m.globals.setScalar name value }

/-- Run a body with bindings of its own, and say what became of them.  They are gone afterwards,
also if the body failed. -/
def withFrame (frame : Scope) (body : Run α) : Run (α × Scope) := fun m =>
  match body { m with frames := frame :: m.frames } with
  | .ok a m => .ok (a, m.frames.headD .empty) { m with frames := m.frames.tail }
  | .error e m => .error e { m with frames := m.frames.tail }

/-! ## Patterns and records -/

def pattern (text : String) : Run Pattern := fun m =>
  match m.cache.compile text with
  | .ok (p, cache) => .ok p { m with cache }
  | .error f => .error (.fault (.pattern f)) m

def fields (text : Scalar) (separator : Scalar) : Run (List (List Char)) := fun m =>
  match splitFields text.chars separator.text m.cache with
  | .ok (fs, cache) => .ok fs { m with cache }
  | .error f => .error (.fault (.pattern f)) m

/-- Take the next record, and say whether there was one; a separator that is no pattern is returned
as a fault, with the state as it was. -/
def advance? : Run (Except Pattern.Fault Bool) := fun m =>
  match m.records.advance m.globals m.cache with
  | .ok (some (records, globals, cache)) => .ok (.ok true) { m with records, globals, cache }
  | .ok none => .ok (.ok false) m
  | .error f => .ok (.error f) m

def advance : Run Bool := do
  match ← advance? with
  | .ok more => return more
  | .error f => throw (.fault (.pattern f))

def resetRecords : Run Unit :=
  modify fun m => { m with records := m.records.reset }

def recordCount : Run Nat :=
  return (← get).records.size

def skipRecords : Run Unit :=
  modify fun m => { m with records := m.records.skip }

/-! ## Output and exit -/

def format (format : String) (args : List Scalar) : Run String := fun m =>
  match Printf.sprintf format args with
  | some text => .ok text m
  | none => .error .aborted m

def emit (text : String) : Run Unit :=
  modify fun m => { m with output := m.output ++ text }

def requestExit (status : Int) : Run Unit :=
  modify fun m => { m with exit? := some status }

def exitStatus? : Run (Option Int) :=
  return (← get).exit?

def exitPending : Run Bool :=
  return (← exitStatus?).isSome

def takeExit : Run (Option Int) :=
  modifyGet fun m => (m.exit?, { m with exit? := none })

end Run

end PatternAction
