import PatternAction.Platform
import PatternAction.Regex

/-!
The platform of the command: patterns are searched for by an engine that follows all their threads
at once, and arrays are gone through by their keys in order.
-/

set_option autoImplicit false
set_option relaxedAutoImplicit false

namespace PatternAction

instance standard : Platform where
  compile text := ((Regex.compile text).map Regex.pattern).mapError fun f => ⟨f.message⟩
  keys t := t.keys
  keys_perm _ := .refl _

end PatternAction
