import PatternAction.Number.Digits

/-!
How the result of arithmetic is written: in single precision, with the fewest digits that identify
it and always a point among them.
-/

set_option autoImplicit false
set_option relaxedAutoImplicit false

namespace PatternAction.Number

def positionalFrom : Number := Precision.single.round false ⟨1, 1000⟩

def positionalUpto : Number := Precision.single.round false ⟨10000000, 1⟩

def isPositional (m : Nat) (e : Int) : Bool :=
  let x := Number.finite false m e
  m == 0 || (x.order positionalFrom != .lt && x.order positionalUpto == .lt)

def positionalText (n : Nat) (k : Int) : List Char :=
  if 0 ≤ k then decimalDigits (n * Nat.pow 10 k.toNat) ++ ['.', '0'] else pointed n (-k).toNat

def integerText (k : Int) : List Char :=
  if k < 0 then '-' :: decimalDigits k.natAbs else decimalDigits k.natAbs

/-- One digit, a point, the other digits or a zero, and a power of ten. -/
def exponentText (n : Nat) (k : Int) : List Char :=
  match decimalDigits n with
  | [] => []
  | d :: ds =>
    d :: '.' :: (if ds.isEmpty then ['0'] else ds) ++ 'E' :: integerText (k + ds.length)

def singleText : Number → List Char
  | .nan => "NaN".toList
  | .infinite s => (if s then "-Infinity" else "Infinity").toList
  | .finite s m e =>
    (if s then ['-'] else []) ++
      if m = 0 then "0.0".toList
      else
        let (n, k) := shortestDigits .single m e
        if isPositional m e then positionalText n k else exponentText n k

def render (x : Number) : String :=
  String.ofList (singleText x.narrow)

example : (ofBits 0x4028000000000000).render = "12.0" := by decide +kernel

example : (div (ofBits 0x4020000000000000) (ofBits 0x4008000000000000)).render = "2.6666667" := by
  decide +kernel

example : (ofBits 0x416312d000000000).render = "1.0E7" := by decide +kernel

end PatternAction.Number
