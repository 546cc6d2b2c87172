import PatternAction.Regex.Fault
import PatternAction.Regex.Phrase
import PatternAction.Text.Blank
import PatternAction.Text.Letter

/-!
Reading the text of a pattern.  Groups and brackets that are open are kept on a stack, and the depth
of every part is known when it is complete, so a pattern that is nested too deeply is never built.
-/

set_option autoImplicit false
set_option relaxedAutoImplicit false

namespace PatternAction.Regex

open Text

def maxDepth : Nat := 250

/-- A part of a pattern, and how deep it is nested. -/
structure Part (α : Type) where
  body : α
  depth : Nat
deriving Repr

def Part.maxDepth {α : Type} (parts : List (Part α)) : Nat :=
  parts.foldl (fun d p => max d p.depth) 0

structure Reading where
  rest : List Char
  /-- Whether blanks and comments do not count. -/
  verbose : Bool
  /-- How many groups have been opened. -/
  groups : Nat
  names : List (String × Nat)

abbrev Reader (α : Type) := StateT Reading (Except Fault) α

namespace Reader

def rest : Reader (List Char) :=
  return (← get).rest

def setRest (cs : List Char) : Reader Unit :=
  modify fun s => { s with rest := cs }

def dropSpace (comment : Bool) : List Char → List Char
  | [] => []
  | c :: cs =>
    if comment then dropSpace (c != '\n') cs
    else if isBlank c then dropSpace false cs
    else if c == '#' then dropSpace true cs
    else c :: cs

def skipSpace : Reader Unit :=
  modify fun s => if s.verbose then { s with rest := dropSpace false s.rest } else s

def skip : Reader Unit :=
  modify fun s => { s with rest := s.rest.drop 1 }

/-- Pass over one character, and over the blanks and comments behind it where they do not count. -/
def advance : Reader Unit := do
  skip
  skipSpace

def head (fault : Fault) : Reader Char := do
  match ← rest with
  | c :: _ => return c
  | [] => throw fault

def accept (text : List Char) : Reader Bool := do
  let cs ← rest
  if text.isPrefixOf cs then setRest (cs.drop text.length); return true else return false

/-- The characters that come next and are wanted; `taken` holds those in front, reversed. -/
def collectFrom (wanted : Char → Bool) : Nat → List Char → Reader (List Char)
  | 0, taken => return taken.reverse
  | fuel + 1, taken => do
    match ← rest with
    | c :: _ =>
      if wanted c then
        advance
        collectFrom wanted fuel (c :: taken)
      else return taken.reverse
    | [] => return taken.reverse

/-- The characters that come next and are wanted, without what does not count between them. -/
def collect (wanted : Char → Bool) : Reader (List Char) := do
  collectFrom wanted (← rest).length []

def around (depth : Nat) : Reader Nat :=
  if depth < maxDepth then return depth + 1 else throw .tooDeep

/-! ## Escapes -/

def hexValue? (c : Char) : Option Nat :=
  if c.isDigit then some (c.toNat - 48)
  else if 'a' ≤ c ∧ c ≤ 'f' then some (c.toNat - 87)
  else if 'A' ≤ c ∧ c ≤ 'F' then some (c.toNat - 55)
  else none

def coded (digits : List Char) (isByte : Bool) : Reader Phrase :=
  match digits.mapM hexValue? with
  | none => throw .escape
  | some values =>
    let n := values.foldl (fun n d => n * 16 + d) 0
    if n.isValidChar then return .literal ⟨Char.ofNat n, isByte⟩ else throw .escape

def exactly : Nat → List Char → Reader (List Char)
  | 0, taken => return taken.reverse
  | count + 1, taken => do
    let c ← head .escape
    advance
    exactly count (c :: taken)

/-- A character by its code, with `count` digits or any number of them in braces. -/
def hex (count : Nat) : Reader Phrase := do
  advance
  if (← head .escape) = '{' then
    advance
    let digits ← collect (· != '}')
    if (← rest).isEmpty ∨ digits.isEmpty then throw .escape
    advance
    coded digits false
  else coded (← exactly count []) (count == 2)

/-- The place of an exclamation mark with an equals sign behind it. -/
def unequalPlace? : List Char → Option Nat
  | '!' :: '=' :: _ => some 0
  | _ :: cs => (unequalPlace? cs).map (· + 1)
  | [] => none

/-- What a name in braces asks for, and whether for the opposite: a property and its value are
divided by an unequal sign, a colon or an equals sign. -/
def query (name : List Char) : PropertyQuery × Bool :=
  match unequalPlace? name with
  | some i => (.value (name.take i) (name.drop (i + 2)), true)
  | none =>
    let mark := if name.contains ':' then ':' else '='
    if name.contains mark then
      (.value (name.takeWhile (· != mark)) ((name.dropWhile (· != mark)).drop 1), false)
    else (.bare name, false)

def property (negated : Bool) : Reader Phrase := do
  advance
  let c ← head .escape
  if c = '{' then
    advance
    let name ← collect (· != '}')
    if (← rest).isEmpty then throw .escape
    skip
    let (q, opposite) := query name
    return .property q (negated != opposite)
  else if c = '\\' then throw .property
  else
    advance
    return .property (.bare [c]) negated

/-- The test that a name in braces behind `\b` asks for; braces without a name are no part of it. -/
def wordTest : Reader WordTest := do
  let start ← rest
  if start.head? != some '{' then return .boundary
  let isNameChar (c : Char) := c.isAlpha || c == '-'
  advance
  if isNameChar (← head .escape) then
    let name ← collect isNameChar
    if !(← accept ['}']) then throw .escape
    match String.ofList name with
    | "start" => return .start
    | "end" => return .stop
    | "start-half" => return .startHalf
    | "end-half" => return .stopHalf
    | _ => throw .escape
  else
    setRest start
    return .boundary

def isEscapable (c : Char) : Bool :=
  c.toNat < 128 && !c.isAlphanum && c != '<' && c != '>'

def escape : Reader Phrase := do
  skip
  let c ← head .escape
  let single (p : Phrase) : Reader Phrase := do skip; return p
  let char (n : Nat) : Reader Phrase := single (.literal ⟨Char.ofNat n, false⟩)
  match c with
  | 'x' => hex 2
  | 'u' => hex 4
  | 'U' => hex 8
  | 'p' => property false
  | 'P' => property true
  | 'd' => single (.letter .digit false)
  | 'D' => single (.letter .digit true)
  | 's' => single (.letter .space false)
  | 'S' => single (.letter .space true)
  | 'w' => single (.letter .word false)
  | 'W' => single (.letter .word true)
  | 'a' => char 7
  | 'f' => char 12
  | 't' => char 9
  | 'n' => char 10
  | 'r' => char 13
  | 'v' => char 11
  | 'A' => single .textStart
  | 'z' => single .textEnd
  | 'b' => do
    skip
    return .word (← wordTest)
  | 'B' => single (.word .inside)
  | '<' => single (.word .start)
  | '>' => single (.word .stop)
  | _ => if isEscapable c then char c.toNat else throw .escape

/-! ## Brackets -/

abbrev SetPart := Part Bracket

/-- Brackets that are open, with what stands around them. -/
structure OpenBracket where
  negated : Bool
  /-- The items of the brackets around, reversed. -/
  outerItems : List SetPart
  /-- The operation that waits for those items. -/
  outerPending : Option (SetOperation × SetPart)

def unionOf (items : List SetPart) : Reader SetPart :=
  match items with
  | [item] => return item
  | [] => return ⟨.union [], 0⟩
  | _ => return ⟨.union (items.reverse.map (·.body)), ← around (Part.maxDepth items)⟩

/-- Join a set with the one that waits in front of it. -/
def joinPending (pending : Option (SetOperation × SetPart)) (right : SetPart) : Reader SetPart :=
  match pending with
  | none => return right
  | some (op, left) =>
    return ⟨.operation op left.body right.body, ← around (max left.depth right.depth)⟩

def asciiClass? (cs : List Char) : Option (Bracket × List Char) :=
  match cs with
  | '[' :: ':' :: cs =>
    let (negated, cs) := match cs with
      | '^' :: cs => (true, cs)
      | _ => (false, cs)
    match cs.dropWhile (· != ':') with
    | ':' :: ']' :: after =>
      (AsciiClass.ofName? (String.ofList (cs.takeWhile (· != ':')))).map fun set =>
        (.ascii set negated, after)
    | _ => none
  | _ => none

def setAtom : Reader Phrase := do
  let c ← head .classUnclosed
  if c = '\\' then escape
  else
    skip
    return .literal ⟨c, false⟩

def setItem : Phrase → Reader Bracket
  | .literal l => return .literal l
  | .letter set negated => return .letter set negated
  | .property q negated => return .property q negated
  | _ => throw .classItem

/-- The first character that counts.  A blank never does, nor does the mark of a comment; what such
a mark hides is seen nevertheless. -/
def countingHead? (marked : Bool) : List Char → Option Char
  | [] => none
  | c :: cs =>
    if isBlank c then countingHead? marked cs
    else if c == '#' && !marked then countingHead? true cs
    else some c

def second? : Reader (Option Char) := do
  let s ← get
  let after := s.rest.drop 1
  return if s.verbose then (countingHead? false after).or after.head? else after.head?

/-- A character, a range, or a set by one letter or by its name. -/
def setRange : Reader Bracket := do
  let first ← setAtom
  skipSpace
  let c ← head .classUnclosed
  let after ← second?
  if c != '-' || after == some ']' || after == some '-' then setItem first
  else
    advance
    let last ← setAtom
    match first, last with
    | .literal lo, .literal hi =>
      if lo.char ≤ hi.char then return .range lo hi else throw .classRange
    | _, _ => throw .classRange

def leadingHyphens : Nat → List SetPart → Reader (List SetPart)
  | 0, items => return items
  | fuel + 1, items => do
    if (← head .classUnclosed) = '-' then
      advance
      leadingHyphens fuel (⟨.literal ⟨'-', false⟩, 0⟩ :: items)
    else return items

/-- Open brackets: whether they are negated, and the items that can only stand in front. -/
def openBracket : Reader (Bool × List SetPart) := do
  advance
  let negated := (← head .classUnclosed) = '^'
  if negated then advance
  let items ← leadingHyphens (← rest).length []
  if items.isEmpty ∧ (← head .classUnclosed) = ']' then
    advance
    let _ ← head .classUnclosed
    return (negated, [⟨.literal ⟨']', false⟩, 0⟩])
  else return (negated, items)

def operation? : List Char → Option SetOperation
  | '&' :: '&' :: _ => some .inter
  | '-' :: '-' :: _ => some .diff
  | '~' :: '~' :: _ => some .symmDiff
  | _ => none

/-- Read up to the bracket that closes the outermost one.  The innermost set has its items, in
reverse, and the operation that waits for them. -/
def bracketItems : Nat → List OpenBracket → Bool → Option (SetOperation × SetPart) → List SetPart →
    Reader (Part Phrase)
  | 0, _, _, _, _ => throw .classUnclosed
  | fuel + 1, outer, negated, pending, items => do
    skipSpace
    let cs ← rest
    match cs with
    | [] => throw .classUnclosed
    | ']' :: _ =>
      let set ← joinPending pending (← unionOf items)
      let depth ← around set.depth
      skip
      match outer with
      | [] => return ⟨.bracket negated set.body, depth⟩
      | o :: os =>
        bracketItems fuel os o.negated o.outerPending
          (⟨.nested negated set.body, depth⟩ :: o.outerItems)
    | '[' :: _ =>
      match asciiClass? cs with
      | some (item, after) =>
        setRest after
        bracketItems fuel outer negated pending (⟨item, 0⟩ :: items)
      | none =>
        let (inner, first) ← openBracket
        bracketItems fuel (⟨negated, items, pending⟩ :: outer) inner none first
    | _ =>
      match operation? cs with
      | some op =>
        let left ← joinPending pending (← unionOf items)
        setRest (cs.drop 2)
        bracketItems fuel outer negated (some (op, left)) []
      | none =>
        let item ← setRange
        bracketItems fuel outer negated pending (⟨item, 0⟩ :: items)

def bracket : Reader (Part Phrase) := do
  let fuel := (← rest).length + 1
  let (negated, first) ← openBracket
  bracketItems fuel [] negated none first

/-! ## Repetitions -/

abbrev Item := Part Phrase

/-- The item to repeat, and those in front of it; a change of flags cannot be repeated. -/
def lastItem (items : List Item) : Reader (Item × List Item) :=
  match items with
  | ⟨.flags _, _⟩ :: _ => throw .repetitionMissing
  | item :: before => return (item, before)
  | [] => throw .repetitionMissing

def repeated (item : Item) (least : Nat) (most : Option Nat) : Reader Item := do
  let fewer ← accept ['?']
  return ⟨.repeat least most (!fewer) item.body, ← around item.depth⟩

def count? : Reader (Option Nat) := do
  setRest ((← rest).dropWhile isBlank)
  let digits ← collect Char.isDigit
  setRest ((← rest).dropWhile isBlank)
  let n := digits.foldl (fun n c => n * 10 + (c.toNat - 48)) 0
  return if digits.isEmpty ∨ 0x100000000 ≤ n then none else some n

def bounds : Reader (Nat × Option Nat) := do
  advance
  let least? ← count?
  let comma := (← head .repetitionCount) = ','
  let most? ←
    if comma then
      advance
      if (← head .repetitionCount) = '}' then pure (some none)
      else pure ((← count?).map some)
    else pure (least?.map some)
  if (← head .repetitionCount) != '}' then throw .repetitionCount
  advance
  match least?, most? with
  | some least, some most =>
    if most.any (· < least) then throw .repetitionCount
    return (least, most)
  | _, _ => throw .repetitionCount

/-! ## Groups -/

/-- A group that is open, with what stands in front of it. -/
structure OpenGroup where
  kind : GroupKind
  /-- The items in front, reversed. -/
  outerItems : List Item
  /-- The alternatives in front of those, reversed. -/
  outerAlternatives : List Item
  /-- Whether blanks and comments did not count outside. -/
  outerVerbose : Bool

/-- The flags up to a colon or a closing parenthesis; `seen` holds the characters in front,
reversed, and `off` tells whether a hyphen is among them. -/
def flagChanges : Nat → List Char → Bool → FlagChanges → Reader FlagChanges
  | 0, _, _, _ => throw .flags
  | fuel + 1, seen, off, changes => do
    let c ← head .flags
    if c = ':' ∨ c = ')' then
      if seen.head? = some '-' then throw .flags
      return changes.reverse
    else if seen.contains c then throw .flags
    else
      skip
      if c = '-' then flagChanges fuel (c :: seen) true changes
      else match Flag.ofLetter? c with
        | some flag => flagChanges fuel (c :: seen) off ((flag, !off) :: changes)
        | none => throw .flags

def nextIndex : Reader Nat :=
  modifyGet fun s => (s.groups + 1, { s with groups := s.groups + 1 })

/-- Whether a name may start with, or go on with, a character. -/
def isNameChar (first : Bool) (c : Char) : Bool :=
  if first then c == '_' || isLetter c
  else c == '_' || c == '.' || c == '[' || c == ']' || isLetter c || isNumeral c

/-- The name of a group, which must be new, up to its closing angle. -/
def groupName (index : Nat) : Reader Unit := do
  let cs ← rest
  let name := cs.takeWhile (· != '>')
  let valid := match name with
    | [] => false
    | c :: more => isNameChar true c && more.all (isNameChar false)
  match cs.dropWhile (· != '>') with
  | [] => throw .groupName
  | _ :: after =>
    let text := String.ofList name
    if !valid || ((← get).names.lookup text).isSome then throw .groupName
    modify fun s => { s with rest := after, names := (text, index) :: s.names }

/-- What a parenthesis opens: a group, or a change of flags that is complete. -/
def opening : Reader (GroupKind × Bool) := do
  advance
  let cs ← rest
  if ["?=", "?!", "?<=", "?<!"].any (·.toList.isPrefixOf cs) then throw .lookAround
  if (← accept "?P<".toList) || (← accept "?<".toList) then
    let index ← nextIndex
    groupName index
    return (.capture index, true)
  else if ← accept ['?'] then
    let changes ← flagChanges ((← rest).length + 1) [] false []
    let opens := (← head .flags) = ':'
    skip
    if !opens && changes.isEmpty then throw .repetitionMissing
    return (.plain changes, opens)
  else return (.capture (← nextIndex), true)

def setVerbose (kind : GroupKind) : Reader Unit :=
  match kind with
  | .capture _ => return
  | .plain changes =>
    match changes.lookup .verbose with
    | some on => modify fun s => { s with verbose := on }
    | none => return

/-! ## Patterns -/

def sequence (items : List Item) : Reader Item :=
  match items with
  | [item] => return item
  | [] => return ⟨.empty, 0⟩
  | _ => return ⟨.seq (items.reverse.map (·.body)), ← around (Part.maxDepth items)⟩

/-- The choice between alternatives that were collected in reverse, and the last one. -/
def choice (alternatives : List Item) (items : List Item) : Reader Item := do
  let last ← sequence items
  match alternatives with
  | [] => return last
  | _ =>
    let all := last :: alternatives
    return ⟨.alt (all.reverse.map (·.body)), ← around (Part.maxDepth all)⟩

/-- A dot, the end of a line, an escape or a character. -/
def atom : Reader Phrase := do
  let c ← head .escape
  if c = '\\' then escape
  else
    skip
    match c with
    | '.' => return .dot
    | '^' => return .lineStart
    | '$' => return .lineEnd
    | _ => return .literal ⟨c, false⟩

/-- Read up to the end.  The innermost group has its items, in reverse, and the alternatives in
front of these, in reverse. -/
def patternItems : Nat → List OpenGroup → List Item → List Item → Reader Item
  | 0, _, _, _ => throw .tooLarge
  | fuel + 1, outer, alternatives, items => do
    skipSpace
    match ← rest with
    | [] =>
      match outer with
      | [] => choice alternatives items
      | _ => throw .groupUnclosed
    | c :: _ =>
      match c with
      | '(' =>
        let (kind, opens) ← opening
        let outside := (← get).verbose
        setVerbose kind
        match kind, opens with
        | .plain changes, false =>
          patternItems fuel outer alternatives (⟨.flags changes, 0⟩ :: items)
        | _, _ => patternItems fuel (⟨kind, items, alternatives, outside⟩ :: outer) [] []
      | ')' =>
        match outer with
        | [] => throw .groupUnopened
        | o :: os =>
          let body ← choice alternatives items
          let depth ← around body.depth
          modify fun s => { s with verbose := o.outerVerbose }
          skip
          patternItems fuel os o.outerAlternatives
            (⟨.group o.kind body.body, depth⟩ :: o.outerItems)
      | '|' =>
        let item ← sequence items
        skip
        patternItems fuel outer (item :: alternatives) []
      | '[' =>
        let item ← bracket
        patternItems fuel outer alternatives (item :: items)
      | '?' =>
        let (item, before) ← lastItem items
        skip
        patternItems fuel outer alternatives ((← repeated item 0 (some 1)) :: before)
      | '*' =>
        let (item, before) ← lastItem items
        skip
        patternItems fuel outer alternatives ((← repeated item 0 none) :: before)
      | '+' =>
        let (item, before) ← lastItem items
        skip
        patternItems fuel outer alternatives ((← repeated item 1 none) :: before)
      | '{' =>
        let (item, before) ← lastItem items
        let (least, most) ← bounds
        patternItems fuel outer alternatives ((← repeated item least most) :: before)
      | _ =>
        let p ← atom
        patternItems fuel outer alternatives (⟨p, 0⟩ :: items)

end Reader

/-- A pattern as written, with the number of its groups and their names. -/
structure Source where
  phrase : Phrase
  groups : Nat
  names : List (String × Nat)

def Source.read (text : String) : Except Fault Source := do
  let cs := text.toList
  let (p, s) ← Reader.patternItems (cs.length + 1) [] [] [] ⟨cs, false, 0, []⟩
  return ⟨p.body, s.groups, s.names⟩

end PatternAction.Regex
