import PatternAction.Value

/-!
Bindings of names to values: those of the whole script, or those of one call.
-/

set_option autoImplicit false
set_option relaxedAutoImplicit false

namespace PatternAction

structure Scope where
  vars : Std.TreeMap String Value

namespace Scope

def empty : Scope := ⟨∅⟩

def get? (s : Scope) (name : String) : Option Value :=
  s.vars[name]?

def contains (s : Scope) (name : String) : Bool :=
  s.vars.contains name

/-- The scalar bound to a name; an unbound name and an array read as empty. -/
def scalar (s : Scope) (name : String) : Scalar :=
  match s.get? name with
  | some (.scalar x) => x
  | _ => .empty

def insert (s : Scope) (name : String) (value : Value) : Scope :=
  ⟨s.vars.insert name value⟩

def setScalar (s : Scope) (name : String) (value : Scalar) : Scope :=
  s.insert name (.scalar value)

def erase (s : Scope) (name : String) : Scope :=
  ⟨s.vars.erase name⟩

def size (s : Scope) : Nat :=
  s.vars.size

def isEmpty (s : Scope) : Bool :=
  s.vars.isEmpty

theorem get?_insert (s : Scope) (name other : String) (value : Value) :
    (s.insert name value).get? other = if name = other then some value else s.get? other := by
  simp [get?, insert, Std.TreeMap.getElem?_insert]

theorem get?_erase (s : Scope) (name other : String) :
    (s.erase name).get? other = if name = other then none else s.get? other := by
  simp [get?, erase, Std.TreeMap.getElem?_erase]

end Scope

end PatternAction
