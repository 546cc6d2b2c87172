import PatternAction.Platform
import Std.Data.TreeMap

/-!
Patterns that have been compiled before.
-/

set_option autoImplicit false
set_option relaxedAutoImplicit false

namespace PatternAction.Pattern

structure Cache where
  entries : Std.TreeMap String Pattern

namespace Cache

variable [Platform]

def empty : Cache := ⟨∅⟩

def keys (c : Cache) : List String :=
  c.entries.keys

/-- The pattern of a text, compiled if it is not held yet; a text that is no pattern is not held. -/
def compile (c : Cache) (text : String) : Except Fault (Pattern × Cache) :=
  match c.entries[text]? with
  | some p => .ok (p, c)
  | none => do
    let p ← Platform.compile text
    return (p, ⟨c.entries.insert text p⟩)

def Sound (c : Cache) : Prop :=
  ∀ text p, c.entries[text]? = some p → Platform.compile text = .ok p

theorem sound_empty : Sound empty := by
  intro text p h
  simp [empty] at h

end Cache

end PatternAction.Pattern
