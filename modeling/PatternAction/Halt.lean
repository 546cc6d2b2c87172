/-!
Why a fuelled computation stopped without a value.
-/

set_option autoImplicit false
set_option relaxedAutoImplicit false

namespace PatternAction

/-- Either a fault of the thing computed, or the end of the fuel, which says nothing about it. -/
inductive Halt (ε : Type) where
  | fault (cause : ε)
  | outOfFuel
deriving DecidableEq, Repr

end PatternAction
