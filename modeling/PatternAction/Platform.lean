import PatternAction.Pattern
import PatternAction.Value

/-!
What scripts leave to the platform they run on.
-/

set_option autoImplicit false
set_option relaxedAutoImplicit false

namespace PatternAction

/-- An engine for patterns, and an order of the keys of arrays. -/
class Platform where
  /-- The pattern of a text. -/
  compile : String → Except Pattern.Fault Pattern
  /-- The keys of an array, in the order in which loops go through them. -/
  keys : Table → List String
  keys_perm : ∀ t, (keys t).Perm t.keys

end PatternAction
