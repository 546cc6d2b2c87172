import PatternAction.Text.CaseTable

/-!
Upper and lower case of text in any script.
-/

set_option autoImplicit false
set_option relaxedAutoImplicit false

namespace PatternAction.Text

/-- Where the first run that lists `n` sends it; `n` itself when none does. -/
def shifted (runs : List CaseRun) (n : Nat) : Nat :=
  (runs.findSome? (·.image? n)).getD n

def lowerChar (c : Char) : List Char :=
  if c.toNat < 128 then [c.toLower]
  else match lowerLong.lookup c.toNat with
    | some ns => ns.map Char.ofNat
    | none => [Char.ofNat (shifted lowerRuns c.toNat)]

def upperChar (c : Char) : List Char :=
  if c.toNat < 128 then [c.toUpper]
  else match upperLong.lookup c.toNat with
    | some ns => ns.map Char.ofNat
    | none => [Char.ofNat (shifted upperRuns c.toNat)]

/-- Whether a cased letter comes next, marks and the like not counted. -/
def meetsCased (cs : List Char) : Bool :=
  match cs.dropWhile fun c => CodeSet.contains ⟨caseIgnorableBounds⟩ c.toNat with
  | [] => false
  | c :: _ => CodeSet.contains ⟨casedBounds⟩ c.toNat

/-- Lower case, knowing the reversed text in front: a capital sigma at the end of a word has a
form of its own. -/
def toLowerAfter (before : List Char) : List Char → List Char
  | [] => []
  | c :: cs =>
    let form :=
      if c = 'Σ' then [if meetsCased before && !meetsCased cs then 'ς' else 'σ'] else lowerChar c
    form ++ toLowerAfter (c :: before) cs

def toLower (cs : List Char) : List Char :=
  toLowerAfter [] cs

def toUpper (cs : List Char) : List Char :=
  cs.flatMap upperChar

example : toUpper "straße".toList = "STRASSE".toList := by decide +kernel

example : toLower "ΟΔΟΣ".toList = "οδος".toList := by decide +kernel

end PatternAction.Text
