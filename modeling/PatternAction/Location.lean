/-!
Places in a script, counted in code points.
-/

set_option autoImplicit false
set_option relaxedAutoImplicit false

namespace PatternAction

/-- A line and a column, both counted from one. -/
structure Location where
  line : Nat
  column : Nat
deriving DecidableEq, Repr

namespace Location

def start : Location := ⟨1, 1⟩

/-- The place of a thing that was not read from a script. -/
def unknown : Location := ⟨0, 0⟩

def step (l : Location) (c : Char) : Location :=
  if c = '\n' then ⟨l.line + 1, 1⟩ else ⟨l.line, l.column + 1⟩

def after (l : Location) (cs : List Char) : Location :=
  cs.foldl step l

theorem after_append (l : Location) (xs ys : List Char) :
    l.after (xs ++ ys) = (l.after xs).after ys := by
  simp [after]

def render (l : Location) : String :=
  s!"line {l.line}, column {l.column}"

end Location

end PatternAction
