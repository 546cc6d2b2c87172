import PatternAction.Text.AgeTable
import PatternAction.Text.BreakTable
import PatternAction.Text.CategoryTable
import PatternAction.Text.CharSet
import PatternAction.Text.PropertyTable
import PatternAction.Text.ScriptTable

/-!
Sets of characters by the names of properties and of their values.
-/

set_option autoImplicit false
set_option relaxedAutoImplicit false

namespace PatternAction.Text

def categoryGroups : List (List String × List String) := [
  (["l", "letter"], ["lu", "ll", "lt", "lm", "lo"]),
  (["lc", "casedletter"], ["lu", "ll", "lt"]),
  (["m", "mark", "combiningmark"], ["mn", "mc", "me"]),
  (["n", "number"], ["nd", "nl", "no"]),
  (["p", "punctuation", "punct"], ["pc", "pd", "ps", "pe", "pi", "pf", "po"]),
  (["s", "symbol"], ["sm", "sc", "sk", "so"]),
  (["z", "separator"], ["zs", "zl", "zp"])]

/-- A name in lower case, without joints and without a leading `is`. -/
def looseName (cs : List Char) : String :=
  let (led, body) := match cs with
    | a :: b :: rest => if a.toLower = 'i' ∧ b.toLower = 's' then (true, rest) else (false, cs)
    | _ => (false, cs)
  let plain := (body.filter fun c => c.toNat < 128 && !(c == '_' || c == '-' || c == ' ')).map
    Char.toLower
  String.ofList (if led ∧ plain = ['c'] then ['i', 's', 'c'] else plain)

def tableSet? (table : List (List String × String)) (name : String) : Option CharSet :=
  (table.find? (·.1.contains name)).map fun entry => .ofCodes (.ofHex entry.2)

def category? (name : String) : Option CharSet :=
  if name = "any" then some .any
  else if name = "ascii" then some (.range 0 0x7f)
  else if name = "assigned" then (tableSet? categoryTable "cn").map (·.negate)
  else if name = "c" ∨ name = "other" then
    some (.unionAll (.range 0xd800 0xdfff ::
      ["cc", "cf", "cn", "co"].filterMap (tableSet? categoryTable)))
  else match categoryGroups.find? (·.1.contains name) with
    | some group => some (.unionAll (group.2.filterMap (tableSet? categoryTable)))
    | none => tableSet? categoryTable name

def script? (name : String) : Option CharSet :=
  tableSet? scriptTable name

def scriptExtension? (name : String) : Option CharSet :=
  (tableSet? extensionTable name).or (script? name)

/-- The characters that were assigned up to a version of the standard. -/
def age? (name : String) : Option CharSet :=
  (ageTable.findIdx? (·.1.contains name)).map fun i =>
    .unionAll ((ageTable.take (i + 1)).map fun entry => .ofCodes (.ofHex entry.2))

/-- The characters that a bare name stands for: a property, a category or a script.  Three names
are categories only, although properties are called so too. -/
def bareProperty? (name : String) : Option CharSet :=
  let property :=
    if name = "cf" ∨ name = "sc" ∨ name = "lc" then none else tableSet? propertyTable name
  property.or ((category? name).or (script? name))

def valueProperty? (property value : String) : Option CharSet :=
  match property with
  | "gc" | "generalcategory" => category? value
  | "sc" | "script" => script? value
  | "scx" | "scriptextensions" => scriptExtension? value
  | "age" => age? value
  | "gcb" | "graphemeclusterbreak" => tableSet? graphemeBreakTable value
  | "wb" | "wordbreak" => tableSet? wordBreakTable value
  | "sb" | "sentencebreak" => tableSet? sentenceBreakTable value
  | _ => none

example : looseName "Is_Greek".toList = "greek" := by decide +kernel

example : looseName "isc".toList = "isc" := by decide +kernel

end PatternAction.Text
