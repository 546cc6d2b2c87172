import PatternAction.Regex.Fault
import PatternAction.Regex.Phrase
import PatternAction.Regex.Tree
import PatternAction.Text.Property

/-!
What patterns mean.  The flags are settled here: a tree has none, only what they make of characters,
places and repetitions.
-/

set_option autoImplicit false
set_option relaxedAutoImplicit false

namespace PatternAction.Regex

open Text

namespace Flags

def fold (f : Flags) (s : CharSet) : CharSet :=
  if f.ignoreCase then if f.unicode then s.foldCase else s.foldAscii else s

/-- A set or what is not in it.  Where characters are bytes, what is not in a set could be parts of
characters. -/
def negateIf (f : Flags) (negated : Bool) (s : CharSet) : Except Fault CharSet :=
  if !negated then .ok s else if f.unicode then .ok s.negate else .error .notText

end Flags

/-- The set of a letter, which holds letters in both cases or none at all. -/
def LetterClass.set (c : LetterClass) (unicode : Bool) : CharSet :=
  match c, unicode with
  | .digit, true => (category? "nd").getD .empty
  | .digit, false => .range 0x30 0x39
  | .space, true =>
    ⟨[⟨9, 13⟩, ⟨0x20, 0x20⟩, ⟨0x85, 0x85⟩, ⟨0xa0, 0xa0⟩, ⟨0x1680, 0x1680⟩, ⟨0x2000, 0x200a⟩,
      ⟨0x2028, 0x2029⟩, ⟨0x202f, 0x202f⟩, ⟨0x205f, 0x205f⟩, ⟨0x3000, 0x3000⟩]⟩
  | .space, false => ⟨[⟨9, 13⟩, ⟨0x20, 0x20⟩]⟩
  | .word, unicode => wordSet unicode

def AsciiClass.set : AsciiClass → CharSet
  | .alnum => ⟨[⟨0x30, 0x39⟩, ⟨0x41, 0x5a⟩, ⟨0x61, 0x7a⟩]⟩
  | .alpha => ⟨[⟨0x41, 0x5a⟩, ⟨0x61, 0x7a⟩]⟩
  | .ascii => .range 0 0x7f
  | .blank => ⟨[⟨9, 9⟩, ⟨0x20, 0x20⟩]⟩
  | .cntrl => ⟨[⟨0, 0x1f⟩, ⟨0x7f, 0x7f⟩]⟩
  | .digit => .range 0x30 0x39
  | .graph => .range 0x21 0x7e
  | .lower => .range 0x61 0x7a
  | .print => .range 0x20 0x7e
  | .punct => ⟨[⟨0x21, 0x2f⟩, ⟨0x3a, 0x40⟩, ⟨0x5b, 0x60⟩, ⟨0x7b, 0x7e⟩]⟩
  | .space => ⟨[⟨9, 13⟩, ⟨0x20, 0x20⟩]⟩
  | .upper => .range 0x41 0x5a
  | .word => wordSet false
  | .xdigit => ⟨[⟨0x30, 0x39⟩, ⟨0x41, 0x46⟩, ⟨0x61, 0x66⟩]⟩

def PropertyQuery.set? : PropertyQuery → Option CharSet
  | .bare name => bareProperty? (looseName name)
  | .value name v => valueProperty? (looseName name) (looseName v)

namespace Flags

def letterSet (f : Flags) (c : LetterClass) (negated : Bool) : Except Fault CharSet :=
  f.negateIf negated (c.set f.unicode)

def querySet (f : Flags) (q : PropertyQuery) (negated : Bool) : Except Fault CharSet :=
  match f.unicode, q.set? with
  | true, some s => f.negateIf negated (f.fold s)
  | _, _ => .error .property

/-- The code of a character in brackets, which has to be a byte of its own where characters are
bytes. -/
def code (f : Flags) (l : Literal) : Except Fault Nat :=
  if !f.unicode && 128 ≤ l.char.toNat then .error .notText else .ok l.char.toNat

def operate (f : Flags) (op : SetOperation) (left right : CharSet) : CharSet :=
  match op with
  | .inter => (f.fold left).inter (f.fold right)
  | .diff => (f.fold left).diff (f.fold right)
  | .symmDiff => (f.fold left).symmDiff (f.fold right)

def dotSet (f : Flags) : CharSet :=
  if f.dotAll then .any
  else if f.returns then CharSet.negate ⟨[⟨10, 10⟩, ⟨13, 13⟩]⟩
  else CharSet.negate ⟨[⟨10, 10⟩]⟩

def startLook (f : Flags) : Look :=
  if f.multiLine then if f.returns then .returnStart else .lineStart else .textStart

def endLook (f : Flags) : Look :=
  if f.multiLine then if f.returns then .returnEnd else .lineEnd else .textEnd

end Flags

namespace Bracket

mutual

def set (f : Flags) : Bracket → Except Fault CharSet
  | .literal l => return .range (← f.code l) (← f.code l)
  | .range lo hi => return .range (← f.code lo) (← f.code hi)
  | .ascii c negated => f.negateIf negated (f.fold c.set)
  | .letter c negated => f.letterSet c negated
  | .property q negated => f.querySet q negated
  | .nested negated body => do f.negateIf negated (f.fold (← set f body))
  | .union items => return .ofIntervals (← intervals f items [])
  | .operation op left right => return f.operate op (← set f left) (← set f right)

def intervals (f : Flags) : List Bracket → List Interval → Except Fault (List Interval)
  | [], is => return is
  | item :: items, is => do intervals f items ((← set f item).intervals ++ is)

end

end Bracket

/-- Something to be settled under flags, which it may change for what follows. -/
abbrev Settling (α : Type) := StateT Flags (Except Fault) α

namespace Phrase

def literalTree (f : Flags) (l : Literal) : Except Fault Tree :=
  if !f.unicode && l.isByte && 128 ≤ l.char.toNat then .error .notText
  else .ok (.ofSet (f.fold (.range l.char.toNat l.char.toNat)))

mutual

/-- The tree of a pattern.  Flags that are set in a group hold up to its end. -/
def tree : Phrase → Settling Tree
  | .empty => return .empty
  | .flags changes => do
    modify (·.change changes)
    return .empty
  | .literal l => do literalTree (← get) l
  | .dot => do
    let f ← get
    if f.unicode then return .ofSet f.dotSet else throw .notText
  | .lineStart => return .look (← get).startLook
  | .lineEnd => return .look (← get).endLook
  | .textStart => return .look .textStart
  | .textEnd => return .look .textEnd
  | .word test => return .look (.word test (← get).unicode)
  | .letter c negated => return .ofSet (← (← get).letterSet c negated)
  | .property q negated => return .ofSet (← (← get).querySet q negated)
  | .bracket negated body => do
    let f ← get
    return .ofSet (← f.negateIf negated (f.fold (← body.set f)))
  | .repeat least most greedy body => do
    let t ← tree body
    return .repeated least most (greedy != (← get).swapGreed) t
  | .group (.capture index) body => do
    let f ← get
    let t ← tree body
    set f
    return .group index t
  | .group (.plain changes) body => do
    let f ← get
    set (f.change changes)
    let t ← tree body
    set f
    return t
  | .seq items => return .concat (← trees items [])
  | .alt items => return .choose (← trees items [])

def trees : List Phrase → List Tree → Settling (List Tree)
  | [], done => return done.reverse
  | p :: ps, done => do trees ps ((← tree p) :: done)

end

end Phrase

end PatternAction.Regex
