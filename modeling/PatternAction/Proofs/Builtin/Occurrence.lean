import PatternAction.Proofs.Builtin.Window
import PatternAction.Proofs.Number.Counts
import PatternAction.Standard

/-!
Occurrences.  The search for a text goes by bytes, and what it finds is turned into a place
afterwards; parts and lengths go by characters.  They agree on every text: the place that is found
is the least one at which so many characters as the text has are that text, and nothing is found
only if there is no such place.
-/

set_option autoImplicit false
set_option relaxedAutoImplicit false

namespace PatternAction.Builtin

variable {needle text : List Char}

/-! ## Bytes in front of a place -/

def byteCount (cs : List Char) : ℕ :=
  (cs.map Char.utf8Size).sum

private theorem placeBehind_append (front back : List Char) :
    placeBehind (front ++ back) (byteCount front) = front.length + 1 := by
  induction front with
  | nil => cases back <;> rfl
  | cons c front ih =>
    have some : 0 < c.utf8Size := c.utf8Size_pos
    have bytes : byteCount (c :: front) = c.utf8Size + byteCount front := rfl
    rw [List.cons_append, placeBehind, if_neg (by omega), bytes, Nat.add_sub_cancel_left, ih]
    rfl

private theorem placeBehind_take {k : ℕ} (inside : k ≤ text.length) :
    placeBehind text (byteCount (text.take k)) = k + 1 := by
  have place := placeBehind_append (text.take k) (text.drop k)
  rwa [List.take_append_drop, List.length_take, Nat.min_eq_left inside] at place

/-! ## The search -/

private theorem offset?_cases (needle text : List Char) :
    (offset? needle text = none ∧ ∀ k ≤ text.length, ¬ needle <+: text.drop k) ∨
      ∃ k ≤ text.length, offset? needle text = some (byteCount (text.take k)) ∧
        needle <+: text.drop k ∧ ∀ j < k, ¬ needle <+: text.drop j := by
  induction text with
  | nil =>
    cases needle with
    | nil => exact .inr ⟨0, Nat.le_refl 0, rfl, List.nil_prefix, nofun⟩
    | cons d needle =>
      refine .inl ⟨rfl, fun k _ => ?_⟩
      rw [List.drop_nil, List.prefix_nil]
      exact List.cons_ne_nil d needle
  | cons c text ih =>
    by_cases here : needle.isPrefixOf (c :: text) = true
    · refine .inr ⟨0, Nat.zero_le _, ?_, List.isPrefixOf_iff_prefix.mp here, nofun⟩
      rw [offset?, if_pos here]
      rfl
    · have notHere : ¬ needle <+: c :: text := fun h => here (List.isPrefixOf_iff_prefix.mpr h)
      rw [offset?, if_neg here]
      rcases ih with ⟨missing, nowhere⟩ | ⟨k, inside, found, occurs, first⟩
      · refine .inl ⟨by rw [missing]; rfl, fun k inside => ?_⟩
        cases k with
        | zero => exact notHere
        | succ k => exact nowhere k (by simpa using inside)
      · refine .inr ⟨k + 1, by simpa using inside, ?_, occurs, fun j before => ?_⟩
        · rw [found, Option.map_some, Nat.add_comm]
          rfl
        · cases j with
          | zero => exact notHere
          | succ j => exact first j (by omega)

/-! ## Places -/

/-- A text occurs at a place, counted from one: so many characters from there on are that text, and
they are inside. -/
def OccursAt (needle text : List Char) (q : ℕ) : Prop :=
  1 ≤ q ∧ window text q (some needle.length) = needle ∧ q - 1 + needle.length ≤ text.length

private theorem window_inside {k n : ℕ} (inside : k + n ≤ text.length)
    (fits : text.length ≤ 0x7fffffffffffffff) :
    window text (k + 1 : ℕ) (some n) = (text.drop k).take n := by
  have part : bounds text.length (k + 1 : ℕ) (some n) = ⟨k, k + n⟩ := by
    simp only [bounds, saturate, clamp, Bounds.mk.injEq]
    omega
  have count : ((k + n : Int) - k).toNat = n := by omega
  rw [window, part]
  change (text.drop (k : Int).toNat).take ((k + n : Int) - k).toNat = _
  rw [count, Int.toNat_natCast]

private theorem occursAt_succ_iff {k : ℕ} (fits : text.length ≤ 0x7fffffffffffffff) :
    OccursAt needle text (k + 1) ↔ k ≤ text.length ∧ needle <+: text.drop k := by
  constructor
  · rintro ⟨-, cut, inside⟩
    rw [Nat.add_sub_cancel] at inside
    rw [window_inside inside fits] at cut
    refine ⟨by omega, ?_⟩
    rw [← cut]
    exact List.take_prefix _ _
  · rintro ⟨behind, occurs⟩
    have length := occurs.length_le
    rw [List.length_drop] at length
    have inside : k + needle.length ≤ text.length := by omega
    refine ⟨Nat.succ_pos k, ?_, inside⟩
    rw [window_inside inside fits]
    exact (List.prefix_iff_eq_take.mp occurs).symm

private theorem indexOf_cases {text needle : Scalar}
    (fits : text.chars.length ≤ 0x7fffffffffffffff) :
    (∃ q, indexOf text needle = .ofCount q ∧ IsLeast {q | OccursAt needle.chars text.chars q} q) ∨
      (indexOf text needle = .empty ∧ ∀ q, ¬ OccursAt needle.chars text.chars q) := by
  rcases offset?_cases needle.chars text.chars with
    ⟨missing, nowhere⟩ | ⟨k, inside, found, occurs, first⟩
  · refine .inr ⟨by rw [indexOf, missing], fun q at_ => ?_⟩
    obtain ⟨k, rfl⟩ : ∃ k, q = k + 1 := ⟨q - 1, by have := at_.1; omega⟩
    obtain ⟨behind, occurs⟩ := (occursAt_succ_iff fits).mp at_
    exact nowhere k behind occurs
  · refine .inl ⟨k + 1, ?_, (occursAt_succ_iff fits).mpr ⟨inside, occurs⟩, fun q at_ => ?_⟩
    · rw [indexOf, found]
      dsimp only
      rw [placeBehind_take inside]
    · obtain ⟨j, rfl⟩ : ∃ j, q = j + 1 := ⟨q - 1, by have := at_.1; omega⟩
      have occurs' := ((occursAt_succ_iff fits).mp at_).2
      by_contra before
      exact first j (by omega) occurs'

private theorem indexOf_empty (text : Scalar) : indexOf text .empty = .ofCount 1 := by
  have found : offset? [] text.chars = some 0 := by
    cases text.chars <;> rfl
  have place : placeBehind text.chars 0 = 1 := by
    cases text.chars <;> rfl
  have none : Scalar.empty.chars = [] := rfl
  rw [indexOf, none, found]
  exact congrArg Scalar.ofCount place

/-! ## Calls -/

private theorem apply_index [Platform] (text needle : Scalar) (m : Machine) :
    Builtin.index.apply ([text, needle].map .scalar) m =
      .ok (indexOf text needle, [text, needle].map .scalar) m :=
  rfl

private theorem apply_length [Platform] (text : Scalar) (m : Machine) :
    Builtin.length.apply ([text].map .scalar) m =
      .ok (.ofCount text.chars.length, [text].map .scalar) m :=
  rfl

end PatternAction.Builtin

namespace PatternAction.Program

open Builtin

/-- `index` and `substr` speak of the same places.  For all texts whose length fits into 64 bits, as
that of every text in memory does, what `index` answers is the least place at which so many
characters as the second text has are that text and lie inside of the first one; if there is no such
place, the answer is empty, and for an empty text it is one.  These characters are what `substr`
returns for the place and for what `length` says, up to `2 ^ 53`, from where on a script cannot name
every number. -/
theorem index_least [Platform] (p : Program) {text : Scalar}
    (fits : text.chars.length ≤ 0x7fffffffffffffff) (needle : Scalar) :
    ∃ answer,
      (∀ args m m' l, p.Passes args m [.scalar text, .scalar needle] m' →
        p.Yields (.call "index" args l) m answer m') ∧
      ((∃ q, answer = .ofCount q ∧ IsLeast {q | OccursAt needle.chars text.chars q} q) ∨
        (answer = .empty ∧ ∀ q, ¬ OccursAt needle.chars text.chars q)) ∧
      (needle = .empty → answer = .ofCount 1) ∧
      (∀ counted args m m' l, p.Passes args m [.scalar counted] m' →
        p.Yields (.call "length" args l) m (.ofCount counted.chars.length) m') ∧
      ∀ q ≤ 2 ^ 53, ∀ n ≤ 2 ^ 53, ∀ args m m' l,
        p.Passes args m [.scalar text, .scalar (.ofCount q), .scalar (.ofCount n)] m' →
        p.Yields (.call "substr" args l) m (.ofChars (window text.chars q (some n))) m' := by
  refine ⟨indexOf text needle, ?_, indexOf_cases fits, ?_, ?_, ?_⟩
  · intro args m m' l passed
    exact passed.call_scalars rfl (apply_index text needle m') l
  · rintro rfl
    exact indexOf_empty text
  · intro counted args m m' l passed
    exact passed.call_scalars rfl (apply_length counted m') l
  · intro q small n small' args m m' l passed
    have cut := apply_substr_part text (.ofCount q) (.ofCount n) m'
    rw [Scalar.toInt64_ofCount small, Scalar.toInt64_ofCount small'] at cut
    exact passed.call_scalars rfl cut l

/-- Characters of several bytes in front of the text, and a second occurrence behind the first. -/
theorem index_least_wide :
    let text : Scalar := ⟨"😀ééaéa"⟩
    let needle : Scalar := ⟨"éa"⟩
    text.chars.length ≤ 0x7fffffffffffffff ∧ IsLeast {q | OccursAt needle.chars text.chars q} 3 ∧
      ∀ m l, empty.Yields (.call "index" [.const text.text, .const needle.text] l) m
        (.ofCount 3) m := by
  intro text needle
  have fits : text.chars.length ≤ 0x7fffffffffffffff := by decide +kernel
  obtain ⟨answer, index, found, -⟩ := index_least empty fits needle
  have occurs : OccursAt needle.chars text.chars 3 :=
    ⟨by decide, by decide +kernel, by decide +kernel⟩
  have before : ∀ j : ℕ, j < 3 → window text.chars j (some needle.chars.length) ≠ needle.chars := by
    decide +kernel
  obtain ⟨q, rfl, least⟩ | ⟨-, nowhere⟩ := found
  · have notBehind : q ≤ 3 := least.2 occurs
    have notBefore : ¬ q < 3 := fun early => before q early least.1.2.1
    obtain rfl : q = 3 := by omega
    refine ⟨fits, least, fun m l => index _ m m l ?_⟩
    exact .value ⟨1, rfl⟩ (.value ⟨1, rfl⟩ (.nil m))
  · exact absurd occurs (nowhere 3)

end PatternAction.Program
