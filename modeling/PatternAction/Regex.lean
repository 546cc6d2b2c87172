import PatternAction.Pattern
import PatternAction.Regex.Meaning
import PatternAction.Regex.Reader
import PatternAction.Regex.Search
import PatternAction.Regex.Weight

/-!
An engine for patterns: compiling them, and finding, replacing and cutting text with them.
-/

set_option autoImplicit false
set_option relaxedAutoImplicit false

namespace PatternAction

/-- A pattern that is ready to search with. -/
structure Regex where
  engine : Regex.Engine
  /-- The numbers of the groups that have names. -/
  names : List (String × Nat)

namespace Regex

def compile (text : String) : Except Fault Regex := do
  let source ← Source.read text
  let (tree, _) ← source.phrase.tree.run .initial
  if !tree.fits then throw .tooLarge
  let (code, start) := tree.code
  return ⟨⟨code, start, 2 * source.groups + 2⟩, source.names⟩

/-- A match: the spans of its groups, the whole of it being group zero. -/
structure Match where
  slots : Slots

namespace Match

def group? (m : Match) (i : Nat) : Option Span :=
  match m.slots.getD (2 * i) none, m.slots.getD (2 * i + 1) none with
  | some a, some b => some ⟨a, b⟩
  | _, _ => none

def span (m : Match) : Span :=
  (m.group? 0).getD ⟨0, 0⟩

end Match

def findAt? (r : Regex) (place : Place) : Option Match :=
  (r.engine.search place).map (⟨·⟩)

def origin (text : List Char) : Place :=
  ⟨none, text, 0⟩

def isMatch (r : Regex) (text : List Char) : Bool :=
  (r.findAt? (origin text)).isSome

def find? (r : Regex) (text : List Char) : Option Span :=
  (r.findAt? (origin text)).map (·.span)

/-- The next match from a place on; an empty one right behind the last match does not count. -/
def next? (r : Regex) (place : Place) (last : Option Nat) : Option Match :=
  match r.findAt? place with
  | none => none
  | some m =>
    if m.span.start = m.span.stop ∧ last = some m.span.stop then
      if place.rest.isEmpty then none else r.findAt? place.forward
    else some m

def matchesFrom (r : Regex) : Nat → Place → Option Nat → List Match
  | 0, _, _ => []
  | fuel + 1, place, last =>
    match r.next? place last with
    | none => []
    | some m =>
      m :: matchesFrom r fuel (place.skip (m.span.stop - place.position)) (some m.span.stop)

/-- All matches in a text that do not overlap, from left to right. -/
def allMatches (r : Regex) (text : List Char) : List Match :=
  r.matchesFrom (2 * text.length + 2) (origin text) none

def slice (text : Array Char) (s : Span) : List Char :=
  (text.extract s.start s.stop).toList

/-- The texts between spans, from `start` up to the end of the text. -/
def between (text : Array Char) (start : Nat) : List Span → List (List Char)
  | [] => [slice text ⟨start, text.size⟩]
  | s :: ss => slice text ⟨start, s.start⟩ :: between text s.stop ss

def split (r : Regex) (text : List Char) : List (List Char) :=
  between text.toArray 0 ((r.allMatches text).map (·.span))

/-! ## Replacing -/

inductive Piece where
  | char (c : Char)
  | group (index : Nat)
  | name (text : String)
deriving DecidableEq, Repr

/-- A reference to a group: by number if the text is one, else by name. -/
def reference (text : List Char) : Piece :=
  let digits := match text with
    | '+' :: ds => ds
    | _ => text
  let n := digits.foldl (fun n c => n * 10 + (c.toNat - 48)) 0
  if !digits.isEmpty && digits.all Char.isDigit && n < 0x10000000000000000 then .group n
  else .name (String.ofList text)

def isReferenceChar (c : Char) : Bool :=
  c.isAlphanum || c == '_'

def reference? (cs : List Char) : Option (Piece × List Char) :=
  match cs with
  | '{' :: cs =>
    match cs.dropWhile (· != '}') with
    | [] => none
    | _ :: after => some (reference (cs.takeWhile (· != '}')), after)
  | _ =>
    let name := cs.takeWhile isReferenceChar
    if name.isEmpty then none else some (reference name, cs.dropWhile isReferenceChar)

/-- The pieces of a replacement: two dollar signs stand for one, and one that starts no reference
for itself. -/
def pieces : Nat → List Char → List Piece
  | 0, _ => []
  | _ + 1, [] => []
  | fuel + 1, '$' :: '$' :: cs => .char '$' :: pieces fuel cs
  | fuel + 1, '$' :: cs =>
    match reference? cs with
    | some (piece, after) => piece :: pieces fuel after
    | none => .char '$' :: pieces fuel cs
  | fuel + 1, c :: cs => .char c :: pieces fuel cs

def template (replacement : List Char) : List Piece :=
  pieces (replacement.length + 1) replacement

/-- The text of a group; empty if it took no part in the match or does not exist. -/
def groupText (text : Array Char) (m : Match) (i : Nat) : List Char :=
  match m.group? i with
  | some s => slice text s
  | none => []

def Piece.expand (r : Regex) (text : Array Char) (m : Match) : Piece → List Char
  | .char c => [c]
  | .group i => groupText text m i
  | .name n =>
    match r.names.lookup n with
    | some i => groupText text m i
    | none => []

def replaceFrom (r : Regex) (text : Array Char) (pieces : List Piece) (start : Nat) :
    List Match → List Char
  | [] => slice text ⟨start, text.size⟩
  | m :: ms =>
    slice text ⟨start, m.span.start⟩ ++ pieces.flatMap (·.expand r text m) ++
      replaceFrom r text pieces m.span.stop ms

def replaceAll (r : Regex) (replacement text : List Char) : List Char :=
  r.replaceFrom text.toArray (template replacement) 0 (r.allMatches text)

def replaceFirst (r : Regex) (replacement text : List Char) : List Char :=
  r.replaceFrom text.toArray (template replacement) 0 (r.findAt? (origin text)).toList

def pattern (r : Regex) : Pattern where
  isMatch := r.isMatch
  find? := r.find?
  split := r.split
  replaceAll := r.replaceAll
  replaceFirst := r.replaceFirst

end Regex

end PatternAction
