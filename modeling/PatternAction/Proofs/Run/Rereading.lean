import PatternAction.Proofs.Number.Stable
import PatternAction.Proofs.Run.Trace
import PatternAction.Proofs.Run.Yields
import PatternAction.Script.Source
import PatternAction.Standard

/-!
Numbers that are read again.  What arithmetic wrote is read by the next operation.  A plus sign,
which reads its operand and writes it again, changes nothing, except for the one magnitude that is
halfway.
-/

set_option autoImplicit false
set_option relaxedAutoImplicit false

namespace PatternAction

section AnyPlatform

variable [Platform]

namespace Scalar

omit [Platform] in
private theorem ofNumber_congr {x y : Number} (same : x.narrow = y.narrow) :
    ofNumber x = ofNumber y := by
  rw [ofNumber, ofNumber, Number.render_eq, Number.render_eq, same]

/-- Reading what was written and writing it again changes nothing, for all numbers that are finite
in single precision and not halfway, and for these only.  So a plus sign in front of an expression
that comes to a written number does not change what it comes to. -/
theorem reread_unchanged {x : Number} (finite : x.narrow.isFinite = true) :
    (ofNumber (ofNumber x).toNumber = ofNumber x ↔ ∀ negative, x.narrow ≠ .halfway negative) ∧
    ((∀ negative, x.narrow ≠ .halfway negative) →
      ∀ (p : Program) (e : Expr) (l : Location) (m m' : Machine), p.Yields e m (ofNumber x) m' →
        p.Yields (.unary .unaryPos e l) m (ofNumber x) m') := by
  have kept (other : ∀ negative, x.narrow ≠ .halfway negative) :
      ofNumber (ofNumber x).toNumber = ofNumber x := by
    cases narrowed : x.narrow with
    | nan =>
      rw [narrowed] at finite
      cases finite
    | infinite negative =>
      rw [narrowed] at finite
      cases finite
    | finite negative m e =>
      have stable : ¬ (m = 11420669 ∧ e = -107) := by
        rintro ⟨rfl, rfl⟩
        exact other negative narrowed
      exact ofNumber_congr ((Number.narrow_read narrowed stable).trans narrowed.symm)
  refine ⟨⟨fun same negative halfway => ?_, kept⟩, fun other p e l m m' operand => ?_⟩
  · have text : ofNumber x = ⟨String.ofList (Number.halfway negative).singleText⟩ := by
      rw [ofNumber, Number.render_eq, halfway]
    rw [text] at same
    cases negative with
    | true => exact absurd same (by decide +kernel)
    | false => exact absurd same (by decide +kernel)
  · have means (eval : Expr → Run Value) : Eval.operation eval .unaryPos e none l =
        Eval.map eval (fun a => .ofNumber a.toNumber) e := rfl
    have plus := operand.unary means
    rwa [kept other] at plus

end Scalar

end AnyPlatform

namespace Scalar

/-- The least positive single number, with a minus sign. -/
theorem reread_unchanged_least :
    let x := Precision.double.round true ⟨1, 2 ^ 149⟩
    let l := Location.unknown
    let m := Machine.ofRecords (.ofLines [])
    x.narrow.isFinite = true ∧ ofNumber x = ⟨"-1.0E-45"⟩ ∧
      ofNumber (ofNumber x).toNumber = ofNumber x ∧
      Program.empty.Yields (.unary .unaryPos (.const "-1.0E-45") l) m ⟨"-1.0E-45"⟩ m := by
  intro x l m
  have narrowed : x.narrow = .finite true 1 (-149) := rfl
  have finite : x.narrow.isFinite = true := congrArg Number.isFinite narrowed
  have other (negative : Bool) : x.narrow ≠ .halfway negative := by
    rw [narrowed]
    intro same
    injection same with _ significand
    cases significand
  have text : ofNumber x = ⟨"-1.0E-45"⟩ := rfl
  obtain ⟨same, plus⟩ := reread_unchanged finite
  refine ⟨finite, text, same.mpr other, ?_⟩
  rw [← text]
  refine plus other _ _ _ _ _ ?_
  rw [text]
  exact ⟨1, rfl⟩

/-- A number that is written, read, and written again as its neighbour. -/
theorem reread_changed_halfway :
    let source := "BEGIN \x7b x = +\"7.0385307E-26\"; y = +x \x7d"
    let x := Number.ofBits 0x3ab5c87fa0000000
    let start := Machine.ofRecords (.ofLines [])
    x.narrow.isFinite = true ∧ ofNumber x = ⟨"7.038531E-26"⟩ ∧
      ofNumber (ofNumber x).toNumber = ⟨"7.0385313E-26"⟩ ∧
      (Program.ofSource source).toOption.map (fun p =>
        let m := Run.stateOf (p.run 12 start)
        (m.globals.scalar "x", m.globals.scalar "y")) =
          some (⟨"7.038531E-26"⟩, ⟨"7.0385313E-26"⟩) := by
  decide +kernel

end Scalar

end PatternAction
