import PatternAction.Proofs.Builtin.Calls
import PatternAction.Standard

/-!
Parts of a text.  The bounds of a part are computed with sums that are moved into 64 bits, and then
moved into the text.  They are in order and within the text, whatever numbers they come from; and
the characters between them are those at exactly the places that are asked for when the numbers are
added as integers.
-/

set_option autoImplicit false
set_option relaxedAutoImplicit false

namespace PatternAction

/-! ## Characters by their places -/

/-- The characters of a text at the wanted places, counted from one. -/
def charactersAt (wanted : Nat → Bool) (text : List Char) : List Char :=
  ((text.zipIdx 1).filter fun entry => wanted entry.2).map Prod.fst

-- By induction on the text: the first character is wanted if nothing has to be skipped, and for the
-- characters behind it both ends are one place nearer.
private theorem filter_zipIdx {wanted : Nat → Bool} {text : List Char} {n first stop : Nat}
    (between : ∀ i < text.length, wanted (n + i) = true ↔ first ≤ i ∧ i < stop) :
    ((text.zipIdx n).filter fun entry => wanted entry.2).map Prod.fst =
      (text.drop first).take (stop - first) := by
  induction text generalizing n first stop with
  | nil => simp
  | cons c text ih =>
    have head : wanted n = true ↔ first = 0 ∧ 0 < stop := by
      have := between 0 (by simp)
      simpa using this
    have tail := @ih (n + 1) (first - 1) (stop - 1) (by
      intro i inside
      have := between (i + 1) (by simpa using inside)
      rw [show n + 1 + i = n + (i + 1) by omega, this]
      omega)
    rw [List.zipIdx_cons, List.filter_cons]
    cases first with
    | zero =>
      cases stop with
      | zero =>
        have skipped : ¬ wanted n = true := by
          rw [head]
          omega
        rw [if_neg skipped, tail]
        simp
      | succ stop =>
        have kept : wanted n = true := head.mpr ⟨rfl, Nat.succ_pos stop⟩
        rw [if_pos kept, List.map_cons, tail]
        simp
    | succ first =>
      have skipped : ¬ wanted n = true := by
        rw [head]
        omega
      rw [if_neg skipped, tail, Nat.sub_sub, List.drop_succ_cons]
      congr 1
      omega

private theorem charactersAt_eq {wanted : Nat → Bool} {text : List Char} {first stop : Nat}
    (between : ∀ i < text.length, wanted (1 + i) = true ↔ first ≤ i ∧ i < stop) :
    charactersAt wanted text = (text.drop first).take (stop - first) :=
  filter_zipIdx between

/-! ## Bounds -/

private theorem Number.toInt64_mem (x : Number) :
    -0x8000000000000000 ≤ x.toInt64 ∧ x.toInt64 ≤ 0x7fffffffffffffff := by
  cases x with
  | finite s m e =>
    simp only [toInt64, truncate]
    omega
  | infinite s => cases s <;> decide
  | nan => decide

namespace Builtin

private theorem clamp_mem {lo hi : Int} (ordered : lo ≤ hi) (n : Int) :
    lo ≤ clamp lo hi n ∧ clamp lo hi n ≤ hi := by
  unfold clamp
  omega

/-- The bounds of a part are in order and within the text, so each sum is moved between two bounds
that are in order: the first one between nothing and the text, the second between the first and the
text. -/
private theorem bounds_ordered (size : Nat) (start : Int) (length : Option Int) :
    0 ≤ (bounds size start length).first ∧
      (bounds size start length).first ≤ (bounds size start length).stop ∧
      (bounds size start length).stop ≤ size := by
  obtain ⟨low, high⟩ := clamp_mem (Int.natCast_nonneg size) (saturate (start - 1))
  cases length with
  | none => exact ⟨low, high, Int.le_refl _⟩
  | some n => exact ⟨low, clamp_mem high _⟩

/-! ## Parts -/

private theorem window_eq_charactersAt {text : List Char} {start : Int} {length : Option Int}
    {wanted : Nat → Bool}
    (between : ∀ i < text.length, wanted (1 + i) = true ↔
      (bounds text.length start length).first ≤ i ∧ i < (bounds text.length start length).stop) :
    window text start length = charactersAt wanted text := by
  obtain ⟨low, ordered, -⟩ := bounds_ordered text.length start length
  simp only [window]
  generalize bounds text.length start length = part at *
  have count : (part.stop - part.first).toNat = part.stop.toNat - part.first.toNat := by omega
  rw [count, charactersAt_eq]
  intro i inside
  rw [between i inside]
  omega

variable {text : List Char} {a b : Int}
variable (low : -0x8000000000000000 ≤ a) (high : a ≤ 0x7fffffffffffffff)
include low high

private theorem window_rest : window text a none = charactersAt (fun q => a ≤ q) text := by
  apply window_eq_charactersAt
  intro i inside
  simp only [decide_eq_true_eq, bounds, saturate, clamp]
  omega

private theorem window_part (low' : -0x8000000000000000 ≤ b) (high' : b ≤ 0x7fffffffffffffff)
    (fits : text.length ≤ 0x7fffffffffffffff) :
    window text a (some b) = charactersAt (fun q => a ≤ q ∧ q < a + b) text := by
  apply window_eq_charactersAt
  intro i inside
  simp only [decide_eq_true_eq, bounds, saturate, clamp]
  omega

end Builtin

section AnyPlatform

variable [Platform]

/-! ## Calls -/

theorem Builtin.apply_substr_part (text s n : Scalar) (m : Machine) :
    Builtin.substr.apply ([text, s, n].map .scalar) m =
      .ok (.ofChars (window text.chars s.toNumber.toInt64 (some n.toNumber.toInt64)),
        [text, s, n].map .scalar) m :=
  rfl

private theorem Builtin.apply_substr_rest (text s : Scalar) (m : Machine) :
    Builtin.substr.apply ([text, s].map .scalar) m =
      .ok (.ofChars (window text.chars s.toNumber.toInt64 none), [text, s].map .scalar) m :=
  rfl

/-- A call of `substr` never fails, whatever scalars it is given, and cuts an exact window out of a
text whose length fits into 64 bits, as that of every text in memory does.  With a place and a
length it comes to the characters at the places from the one up to the sum of both, where the sum is
that of integers; with a place only, to all characters from it on.  The bounds of what is cut out
are in order and within the text. -/
theorem Program.substr_exact (p : Program) {text : Scalar}
    (fits : text.chars.length ≤ 0x7fffffffffffffff) (s n : Scalar) :
    let a := s.toNumber.toInt64
    let b := n.toNumber.toInt64
    (∀ args m m' l, p.Passes args m [.scalar text, .scalar s, .scalar n] m' →
      p.Yields (.call "substr" args l) m
        (.ofChars (charactersAt (fun q => a ≤ q ∧ q < a + b) text.chars)) m') ∧
    (∀ args m m' l, p.Passes args m [.scalar text, .scalar s] m' →
      p.Yields (.call "substr" args l) m
        (.ofChars (charactersAt (fun q => a ≤ q) text.chars)) m') ∧
    ∀ length, let part := Builtin.bounds text.chars.length a length
      0 ≤ part.first ∧ part.first ≤ part.stop ∧ part.stop ≤ text.chars.length := by
  intro a b
  obtain ⟨low, high⟩ := s.toNumber.toInt64_mem
  obtain ⟨low', high'⟩ := n.toNumber.toInt64_mem
  refine ⟨fun args m m' l passed => ?_, fun args m m' l passed => ?_,
    Builtin.bounds_ordered text.chars.length a⟩
  · rw [← Builtin.window_part low high low' high' fits]
    exact passed.call_scalars rfl (Builtin.apply_substr_part text s n m') l
  · rw [← Builtin.window_rest low high]
    exact passed.call_scalars rfl (Builtin.apply_substr_rest text s m') l

end AnyPlatform

/-- A place that is not whole, a length that does not fit into 64 bits, and characters of different
widths. -/
theorem Program.substr_exact_saturated :
    let text : Scalar := ⟨"aé😀d"⟩
    let m := Machine.ofRecords (.ofLines [])
    let l := Location.unknown
    text.chars.length ≤ 0x7fffffffffffffff ∧
      Program.empty.Yields
        (.call "substr" [.const text.text, .const "2.9", .const "1e300"] l) m ⟨"é😀d"⟩ m ∧
      Program.empty.Yields (.call "substr" [.const text.text, .const "-1e300"] l) m text m := by
  intro text m l
  have fits : text.chars.length ≤ 0x7fffffffffffffff := by decide +kernel
  have value (t : String) : ∃ fuel, Program.empty.eval fuel (.const t) m = .ok (.scalar ⟨t⟩) m :=
    ⟨1, rfl⟩
  have part := (Program.empty.substr_exact fits ⟨"2.9"⟩ ⟨"1e300"⟩).1 _ m m l
    (.value (value _) (.value (value _) (.value (value _) (.nil m))))
  have rest := (Program.empty.substr_exact fits ⟨"-1e300"⟩ .empty).2.1 _ m m l
    (.value (value _) (.value (value _) (.nil m)))
  have cut : Scalar.ofChars (charactersAt
      (fun q => (⟨"2.9"⟩ : Scalar).toNumber.toInt64 ≤ q ∧
        q < (⟨"2.9"⟩ : Scalar).toNumber.toInt64 + (⟨"1e300"⟩ : Scalar).toNumber.toInt64)
      text.chars) = ⟨"é😀d"⟩ := by decide +kernel
  have all : Scalar.ofChars (charactersAt
      (fun q => (⟨"-1e300"⟩ : Scalar).toNumber.toInt64 ≤ q) text.chars) = text := by
    decide +kernel
  rw [cut] at part
  rw [all] at rest
  exact ⟨fits, part, rest⟩

end PatternAction
