import PatternAction.Proofs.Number.Size
import PatternAction.Proofs.Run.Yields
import PatternAction.Standard

/-!
The order of texts.  Two numerals are ordered by size, and any other two texts by their characters.
The size of a number is exact: a rational number, or one of two ends, and no numeral is read as
something that has no size.  So of two texts the first is less than, equal to or greater than the
second, and turning them around turns the answer around.  Among numerals alone, and among texts none
of which is a numeral, the order is a total preorder.
-/

set_option autoImplicit false
set_option relaxedAutoImplicit false

namespace PatternAction

/-! ## Numerals have sizes -/

private theorem Precision.round_ne_nan (p : Precision) (negative : Bool) (q : Fraction) :
    p.round negative q ≠ .nan := by
  intro same
  rw [round] at same
  split at same
  · cases same
  · dsimp only at same
    split at same <;> split at same <;> cases same

private theorem Number.ofWhole?_ne_nan (cs : List Char) : ofWhole? cs ≠ some .nan := by
  intro read
  obtain ⟨d, -, value⟩ := Option.map_eq_some_iff.mp read
  rw [d.toNumber_eq_round] at value
  exact Precision.round_ne_nan _ _ _ value

namespace Scalar

def extent? (s : Scalar) : Option Extent :=
  s.asNumber?.bind Number.extent?

private theorem extent?_eq_none_iff {s : Scalar} : s.extent? = none ↔ s.asNumber? = none := by
  rw [extent?]
  cases read : s.asNumber? with
  | none => exact ⟨fun _ => rfl, fun _ => rfl⟩
  | some x =>
    have number : x ≠ .nan := by
      rintro rfl
      exact Number.ofWhole?_ne_nan s.chars read
    obtain ⟨a, size⟩ := Number.exists_extent number
    rw [Option.bind_some, size]
    exact ⟨nofun, nofun⟩

private theorem order_of_extent {s t : Scalar} {a b : Extent} (hs : s.extent? = some a)
    (ht : t.extent? = some b) : s.order t = compare a b := by
  obtain ⟨x, first, sizeOf⟩ := Option.bind_eq_some_iff.mp hs
  obtain ⟨y, second, sizeOf'⟩ := Option.bind_eq_some_iff.mp ht
  rw [order, first, second]
  exact Number.order_eq_compare sizeOf sizeOf'

private theorem order_of_text {s t : Scalar} (other : s.extent? = none ∨ t.extent? = none) :
    s.order t = compare s.text t.text := by
  rw [extent?_eq_none_iff, extent?_eq_none_iff] at other
  rw [order]
  rcases other with none | none
  · rw [none]
  · rw [none]
    cases s.asNumber? <;> rfl

/-! ## Laws -/

private theorem order_eq_swap (s t : Scalar) : t.order s = (s.order t).swap := by
  by_cases both : s.extent? = none ∨ t.extent? = none
  · rw [order_of_text both, order_of_text both.symm]
    exact Std.OrientedOrd.eq_swap
  · obtain ⟨⟨a, hs⟩, b, ht⟩ : (∃ a, s.extent? = some a) ∧ ∃ b, t.extent? = some b := by
      simpa only [not_or, Option.ne_none_iff_exists'] using both
    rw [order_of_extent hs ht, order_of_extent ht hs]
    exact Std.OrientedOrd.eq_swap

private theorem order_self (s : Scalar) : s.order s = .eq := by
  cases size : s.extent? with
  | none =>
    rw [order_of_text (.inl size)]
    exact Std.compare_self
  | some a =>
    rw [order_of_extent size size]
    exact Std.compare_self

private theorem order_trans {s t u : Scalar}
    (alike : (s.extent?.isSome ∧ t.extent?.isSome ∧ u.extent?.isSome) ∨
      s.extent? = none ∧ t.extent? = none ∧ u.extent? = none)
    (first : (s.order t).isLE = true) (second : (t.order u).isLE = true) :
    (s.order u).isLE = true := by
  rcases alike with ⟨hs, ht, hu⟩ | ⟨hs, ht, -⟩
  · obtain ⟨a, hs⟩ := Option.isSome_iff_exists.mp hs
    obtain ⟨b, ht⟩ := Option.isSome_iff_exists.mp ht
    obtain ⟨c, hu⟩ := Option.isSome_iff_exists.mp hu
    rw [order_of_extent hs ht] at first
    rw [order_of_extent ht hu] at second
    rw [order_of_extent hs hu]
    exact Std.TransOrd.isLE_trans first second
  · rw [order_of_text (.inl hs)] at first
    rw [order_of_text (.inl ht)] at second
    rw [order_of_text (.inl hs)]
    exact Std.TransOrd.isLE_trans first second

private theorem count_of_order (o : Ordering) : [o == .lt, o == .eq, o == .gt].count true = 1 := by
  cases o <;> rfl

end Scalar

section AnyPlatform

variable [Platform]

private theorem Program.Yields.comparison {p : Program} {op : Operator} {left right : Expr}
    {l : Location} {m m₁ m₂ : Machine} {a b : Scalar} (test : Ordering → Bool)
    (first : p.Yields left m a m₁) (second : p.Yields right m₁ b m₂)
    (means : ∀ eval, Eval.operation eval op left (some right) l =
      Eval.map₂ eval (Eval.onOrder test) op left (some right) l) :
    p.Yields (.binary op left right l) m (.ofBool (test (a.order b))) m₂ :=
  first.binary second means

/-- Comparisons of texts are consistent.  The order of two texts is turned around with them, a text
is equal to itself, and no numeral is read as something that is no number.  The comparisons of any
two operands, whatever they come to, answer tests of the order of the two: exactly one of less,
equal and greater is answered by `1` and the others by `0`, and the other three answer the opposite
of greater, less and equal.  On any set of numerals, and on any set of texts without a numeral, the
order is a total preorder. -/
theorem Scalar.order_consistent :
    (∀ a b : Scalar, b.order a = (a.order b).swap ∧ a.order a = .eq ∧ a.asNumber? ≠ some .nan) ∧
    (∀ (p : Program) (left right : Expr) (l : Location) (m m₁ m₂ : Machine) (a b : Scalar),
      p.Yields left m a m₁ → p.Yields right m₁ b m₂ →
      let less := a.order b == .lt
      let equal := a.order b == .eq
      let greater := a.order b == .gt
      [less, equal, greater].count true = 1 ∧
        p.Yields (.binary .lt left right l) m (.ofBool less) m₂ ∧
        p.Yields (.binary .eq left right l) m (.ofBool equal) m₂ ∧
        p.Yields (.binary .gt left right l) m (.ofBool greater) m₂ ∧
        p.Yields (.binary .le left right l) m (.ofBool !greater) m₂ ∧
        p.Yields (.binary .ge left right l) m (.ofBool !less) m₂ ∧
        p.Yields (.binary .ne left right l) m (.ofBool !equal) m₂) ∧
    ∀ S : Set Scalar, ((∀ s ∈ S, s.asNumber?.isSome = true) ∨ ∀ s ∈ S, s.asNumber? = none) →
      IsPreorder S (fun a b => (a.1.order b.1).isLE = true) ∧
        Std.Total fun a b : S => (a.1.order b.1).isLE = true := by
  refine ⟨fun a b => ⟨order_eq_swap a b, order_self a, Number.ofWhole?_ne_nan a.chars⟩, ?_, ?_⟩
  · intro p left right l m m₁ m₂ a b first second less equal greater
    refine ⟨count_of_order (a.order b), ?_, ?_, ?_, ?_, ?_, ?_⟩
    · exact .comparison (· == .lt) first second fun _ => rfl
    · exact .comparison (· == .eq) first second fun _ => rfl
    · exact .comparison (· == .gt) first second fun _ => rfl
    · exact .comparison (· != .gt) first second fun _ => rfl
    · exact .comparison (· != .lt) first second fun _ => rfl
    · exact .comparison (· != .eq) first second fun _ => rfl
  · intro S alike
    have sizes : (∀ s ∈ S, s.extent?.isSome = true) ∨ ∀ s ∈ S, s.extent? = none := by
      simpa only [← Option.ne_none_iff_isSome, ne_eq, extent?_eq_none_iff] using alike
    refine ⟨{ refl := fun a => ?_, trans := fun a b c first second => ?_ }, ⟨fun a b => ?_⟩⟩
    · rw [order_self]
      rfl
    · refine order_trans ?_ first second
      rcases sizes with numerals | texts
      · exact .inl ⟨numerals a a.2, numerals b b.2, numerals c c.2⟩
      · exact .inr ⟨texts a a.2, texts b b.2, texts c c.2⟩
    · rw [order_eq_swap a.1 b.1]
      cases a.1.order b.1 with
      | lt => exact .inl rfl
      | eq => exact .inl rfl
      | gt => exact .inr rfl

end AnyPlatform

/-- Two infinite numerals are equal, all numerals are ordered together, and so are all texts that
are none. -/
theorem Scalar.order_consistent_infinite :
    let l := Location.unknown
    let m := Machine.ofRecords (.ofLines [])
    let compared (op : Operator) := Expr.binary op (.const "1e999") (.const "+2E400") l
    (Program.empty.Yields (compared .lt) m ⟨"0"⟩ m ∧ Program.empty.Yields (compared .eq) m ⟨"1"⟩ m ∧
      Program.empty.Yields (compared .gt) m ⟨"0"⟩ m ∧
      Program.empty.Yields (compared .le) m ⟨"1"⟩ m ∧
      Program.empty.Yields (compared .ge) m ⟨"1"⟩ m ∧
      Program.empty.Yields (compared .ne) m ⟨"0"⟩ m) ∧
    IsPreorder {s : Scalar | s.asNumber?.isSome = true} (fun a b => (a.1.order b.1).isLE = true) ∧
    IsPreorder {s : Scalar | s.asNumber? = none} (fun a b => (a.1.order b.1).isLE = true) := by
  intro l m compared
  have constant (text : String) : Program.empty.Yields (.const text) m ⟨text⟩ m := ⟨1, rfl⟩
  have same : (⟨"1e999"⟩ : Scalar).order ⟨"+2E400"⟩ = .eq := by decide +kernel
  obtain ⟨-, comparisons, preorders⟩ := Scalar.order_consistent
  obtain ⟨-, answers⟩ :=
    comparisons Program.empty _ _ l m m m _ _ (constant "1e999") (constant "+2E400")
  rw [same] at answers
  refine ⟨answers, ?_, ?_⟩
  · exact (preorders _ (.inl fun _ numeral => numeral)).1
  · exact (preorders _ (.inr fun _ other => other)).1

-- Where numerals and other texts are mixed, three texts may be less than each other in a circle.
example :
    (⟨"2"⟩ : Scalar).order ⟨"10"⟩ = .lt ∧ (⟨"10"⟩ : Scalar).order ⟨"1x"⟩ = .lt ∧
      (⟨"1x"⟩ : Scalar).order ⟨"2"⟩ = .lt := by
  decide +kernel

end PatternAction
