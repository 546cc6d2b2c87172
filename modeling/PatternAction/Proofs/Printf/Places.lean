import Mathlib.Data.List.Infix
import PatternAction.Proofs.Printf.Items

/-!
Formats without a text.  A number with few enough places behind its point is laid out by every
conversion, so a format has a text for all arguments unless one of its directives asks for more.  In
the general conversion a small number takes three places more than it has significant digits.
-/

set_option autoImplicit false
set_option relaxedAutoImplicit false

namespace PatternAction.Printf

/-- A precision with which every conversion lays out every argument. -/
def Spec.Fits (s : Spec) : Prop :=
  ∀ p ∈ s.precision, p + 3 ≤ mostPlaces

/-- A directive in the format asks for more than that. -/
def Overlong (format : String) : Prop :=
  ∃ d : Directive, d.text <:+: format.toList ∧ ¬ d.opening.spec.Fits

private theorem Spec.Fits.places_le {s : Spec} (fits : s.Fits) :
    s.precision.getD 6 + 3 ≤ mostPlaces := by
  cases asked : s.precision with
  | none => decide
  | some p => exact fits p asked

private theorem placesOf_of_le {places : Nat} (le : places ≤ mostPlaces) :
    placesOf places = some places := by
  rw [placesOf, Option.guard, decide_eq_true le]
  rfl

private theorem word32_of_le {n : Nat} (le : n ≤ mostPlaces) : word32 n = n := by
  unfold mostPlaces at le
  exact Int.bmod_eq_of_le_mul_two (by omega) (by omega)

private theorem isSome_exponentBody (q : Fraction) {places : Nat} (le : places ≤ mostPlaces)
    (upper : Bool) : (exponentBody q places upper).isSome = true := by
  rw [exponentBody, placesOf_of_le le]
  rfl

private theorem exists_power (q : Fraction) {places : Nat} (le : places ≤ mostPlaces) :
    ∃ k, power q places = some k := by
  unfold power
  split
  · exact ⟨0, rfl⟩
  · exact ⟨_, by rw [placesOf_of_le le]; rfl⟩

private theorem isSome_shorterBody (q : Fraction) {digits : Nat} (le : digits + 3 ≤ mostPlaces)
    (upper : Bool) : (shorterBody q digits upper).isSome = true := by
  have fewer : digits - 1 ≤ mostPlaces := by omega
  obtain ⟨k, found⟩ := exists_power q fewer
  rw [shorterBody, found, Option.bind_eq_bind, Option.bind_some, word32_of_le (by omega)]
  split
  · exact isSome_exponentBody q fewer upper
  · rw [placesOf_of_le (by omega)]
    rfl

private theorem isSome_generalBody (q : Fraction) {digits : Nat} (le : digits + 3 ≤ mostPlaces)
    (alternate upper : Bool) : (generalBody q digits alternate upper).isSome = true := by
  have fits : max digits 1 + 3 ≤ mostPlaces := by
    unfold mostPlaces at le ⊢
    omega
  have body := isSome_shorterBody q fits upper
  rw [generalBody]
  split
  · exact body
  · exact Option.isSome_map.trans body

private theorem isSome_real (s : Spec) (x : Number) {body : Fraction → Option (List Char)}
    (all : ∀ q, (body q).isSome = true) : (real s x body).isSome = true := by
  cases x with
  | finite negative m e => exact Option.isSome_map.trans (all _)
  | _ => rfl

private theorem Conversion.isSome_apply (c : Conversion) {s : Spec} (fits : s.Fits) (arg : Scalar) :
    (c.apply s arg).isSome = true := by
  have places := fits.places_le
  have fewer : s.precision.getD 6 ≤ mostPlaces := Nat.le_of_add_right_le places
  cases c with
  | fixed =>
    rw [apply, placesOf_of_le fewer, Option.bind_eq_bind, Option.bind_some]
    exact isSome_real s _ fun q => rfl
  | exponent upper =>
    rw [apply]
    exact isSome_real s _ fun q => isSome_exponentBody q fewer upper
  | general upper =>
    rw [apply]
    exact isSome_real s _ fun q => isSome_generalBody q places s.alternate upper
  | text | char | integer | octal | hex => rfl

private theorem Directive.not_fits_of_shown {d : Directive} {args : List Scalar}
    (refused : (Item.directive d).shown args = none) : ¬ d.opening.spec.Fits := by
  intro fits
  rw [Item.shown] at refused
  split at refused
  · rename_i conversion _
    have shown := conversion.isSome_apply fits (args.headD .empty)
    rw [refused] at shown
    cases shown
  · cases refused

private theorem exists_directive_of_allShown {items : List Item} {args : List Scalar}
    (refused : allShown args items = none) :
    ∃ d, Item.directive d ∈ items ∧ ¬ d.opening.spec.Fits := by
  induction items generalizing args with
  | nil => cases refused
  | cons i items ih =>
    rw [allShown, Option.map₂_eq_none_iff] at refused
    rcases refused with here | later
    · cases i with
      | plain | percent => cases here
      | directive d => exact ⟨d, List.mem_cons_self, Directive.not_fits_of_shown here⟩
    · obtain ⟨d, mem, many⟩ := ih later
      exact ⟨d, List.mem_cons_of_mem _ mem, many⟩

/-- A format that has no text for some arguments has a directive that asks for too many places. -/
theorem overlong_of_sprintf {format : String} {args : List Scalar}
    (refused : sprintf format args = none) : Overlong format := by
  have among {items : List Item} (front : items.flatMap Item.text <:+: format.toList)
      (none : allShown args items = none) : Overlong format := by
    obtain ⟨d, mem, many⟩ := exists_directive_of_allShown none
    refine ⟨d, List.IsInfix.trans ?_ front, many⟩
    obtain ⟨before, after, rfl⟩ := List.append_of_mem mem
    exact ⟨before.flatMap Item.text, after.flatMap Item.text, by simp [Item.text]⟩
  rw [sprintf, Option.map_eq_none_iff] at refused
  obtain ⟨items, whole | ⟨o, whole⟩⟩ := exists_items format.toList
  · rw [whole, layout_items] at refused
    exact among (whole ▸ List.infix_rfl) refused
  · rw [whole, layout_items_append, layout_opening, Option.map₂_eq_none_iff] at refused
    refine among ?_ (refused.resolve_right (Option.some_ne_none _))
    rw [whole]
    exact (List.prefix_append _ _).isInfix

end PatternAction.Printf
