import PatternAction.Text.CharSet
import PatternAction.Text.WordTable

/-!
Tests on a place in a text.
-/

set_option autoImplicit false
set_option relaxedAutoImplicit false

namespace PatternAction.Regex

open Text

def wordSet (unicode : Bool) : CharSet :=
  if unicode then .ofCodes (.ofHex wordBounds)
  else ⟨[⟨0x30, 0x39⟩, ⟨0x41, 0x5a⟩, ⟨0x5f, 0x5f⟩, ⟨0x61, 0x7a⟩]⟩

def wordTable : Array Interval :=
  (wordSet true).intervals.toArray

def isWordLike (unicode : Bool) (c : Char) : Bool :=
  if unicode && 128 ≤ c.toNat then CharSet.search wordTable c.toNat
  else c.isAlphanum || c == '_'

inductive WordTest where
  | boundary | inside | start | stop | startHalf | stopHalf
deriving DecidableEq, Repr

/-- Tests on a place, which take no characters. -/
inductive Look where
  | textStart | textEnd
  | lineStart | lineEnd
  /-- As the two above, a carriage return ending a line as well. -/
  | returnStart | returnEnd
  | word (test : WordTest) (unicode : Bool)
deriving DecidableEq, Repr

namespace Look

/-- Whether a test holds between two characters; a missing one is the end of the text. -/
def holds (l : Look) (before after : Option Char) : Bool :=
  match l with
  | .textStart => before.isNone
  | .textEnd => after.isNone
  | .lineStart => before.isNone || before == some '\n'
  | .lineEnd => after.isNone || after == some '\n'
  | .returnStart =>
    before.isNone || before == some '\n' || (before == some '\r' && after != some '\n')
  | .returnEnd =>
    after.isNone || after == some '\r' || (after == some '\n' && before != some '\r')
  | .word test unicode =>
    let b := before.any (isWordLike unicode)
    let a := after.any (isWordLike unicode)
    match test with
    | .boundary => b != a
    | .inside => b == a
    | .start => !b && a
    | .stop => b && !a
    | .startHalf => !b
    | .stopHalf => !a

end Look

end PatternAction.Regex
