import PatternAction.Record

/-!
What a record leaves in the bindings.  Names of fields begin with a sign of their own and differ
from each other, so each of the bindings that a record makes can be read off by its name: the line,
the fields, and the counts.
-/

set_option autoImplicit false
set_option relaxedAutoImplicit false

namespace PatternAction

/-! ## Names of fields -/

/-- Whether a name begins with the sign of fields. -/
def hasFieldSign (name : String) : Bool :=
  name.toList.head? == some '$'

private theorem toList_fieldName (n : Nat) : (fieldName n).toList = '$' :: decimalDigits n := by
  simp [fieldName, Scalar.ofCount]

theorem hasFieldSign_fieldName (n : Nat) : hasFieldSign (fieldName n) = true := by
  simp [hasFieldSign, toList_fieldName]

theorem fieldName_injective {m n : Nat} (h : fieldName m = fieldName n) : m = n := by
  have digits : decimalDigits m = decimalDigits n := by
    have texts := congrArg String.toList h
    rw [toList_fieldName, toList_fieldName] at texts
    exact (List.cons.inj texts).2
  calc m = Nat.ofDigitChars 10 (decimalDigits m) 0 := Nat.ofDigitChars_ten_toDigits.symm
    _ = Nat.ofDigitChars 10 (decimalDigits n) 0 := by rw [digits]
    _ = n := Nat.ofDigitChars_ten_toDigits

private theorem fieldName_inj {m n : Nat} : fieldName m = fieldName n ↔ m = n :=
  ⟨fieldName_injective, congrArg fieldName⟩

theorem ne_fieldName {name : String} (h : hasFieldSign name = false) (n : Nat) :
    name ≠ fieldName n := by
  rintro rfl
  rw [hasFieldSign_fieldName] at h
  cases h

/-- Whether a record may bind or unbind a name: a name of a field, or a count. -/
def isPublished (name : String) : Bool :=
  hasFieldSign name || ["NF", "NR", "FNR"].contains name

theorem hasFieldSign_of_unpublished {name : String} (h : isPublished name = false) :
    hasFieldSign name = false :=
  (Bool.or_eq_false_iff.mp h).1

theorem Scope.get?_setScalar (s : Scope) (name other : String) (value : Scalar) :
    (s.setScalar name value).get? other =
      if name = other then some (.scalar value) else s.get? other :=
  s.get?_insert name other (.scalar value)

namespace Records

/-! ## Fields -/

private theorem get?_bindFields (scope : Scope) (n : Nat) (fields : List (List Char)) (k : Nat) :
    (bindFields scope n fields).get? (fieldName k) =
      if n ≤ k ∧ k < n + fields.length then fields[k - n]?.map fun f => .scalar (.ofChars f)
      else scope.get? (fieldName k) := by
  induction fields generalizing scope n with
  | nil => simp only [bindFields, List.length_nil]; rw [if_neg (by omega)]
  | cons f fields ih =>
    rw [bindFields, ih, Scope.get?_setScalar, List.length_cons]
    simp only [fieldName_inj]
    by_cases here : n = k
    · subst here
      rw [if_neg (by omega), if_pos rfl, if_pos (by omega), Nat.sub_self]
      rfl
    · by_cases later : n + 1 ≤ k ∧ k < n + 1 + fields.length
      · rw [if_pos later, if_pos (by omega), show k - n = k - (n + 1) + 1 by omega]
        rfl
      · rw [if_neg later, if_neg here, if_neg (by omega)]

private theorem get?_unbindFields (scope : Scope) (n count k : Nat) :
    (unbindFields scope n count).get? (fieldName k) =
      if n < k ∧ k ≤ n + count then Option.none else scope.get? (fieldName k) := by
  induction count generalizing scope n with
  | zero => rw [unbindFields, if_neg (by omega)]
  | succ count ih =>
    rw [unbindFields, ih, Scope.get?_erase]
    simp only [fieldName_inj]
    by_cases here : n + 1 = k
    · rw [if_neg (by omega), if_pos here, if_pos (by omega)]
    · by_cases later : n + 1 < k ∧ k ≤ n + 1 + count
      · rw [if_pos later, if_pos (by omega)]
      · rw [if_neg later, if_neg here, if_neg (by omega)]

/-! ## Records -/

section Publish

variable (scope : Scope) (line : String) (fields : List (List Char)) (before nr fnr : Nat)

/-- Of the names of fields a record touches only those that it or the record before it has. -/
theorem get?_publish_fieldName (k : Nat) :
    (publish scope line fields before nr fnr).get? (fieldName k) =
      if k = 0 then some (.scalar ⟨line⟩)
      else if k ≤ fields.length then fields[k - 1]?.map fun f => .scalar (.ofChars f)
      else if k ≤ before then Option.none
      else scope.get? (fieldName k) := by
  have notCount (name : String) (h : hasFieldSign name = false) : name ≠ fieldName k :=
    ne_fieldName h k
  simp only [publish, Scope.get?_setScalar]
  rw [if_neg (notCount "FNR" (by decide)), if_neg (notCount "NR" (by decide)),
    if_neg (notCount "NF" (by decide)), get?_unbindFields, get?_bindFields, Scope.get?_setScalar]
  simp only [fieldName_inj]
  rcases Nat.eq_zero_or_pos k with zero | pos
  · subst zero
    rw [if_neg (by omega), if_neg (by omega), if_pos rfl, if_pos rfl]
  · rw [if_neg (by omega : ¬ 0 = k), if_neg (by omega : ¬ k = 0)]
    by_cases own : k ≤ fields.length
    · rw [if_neg (by omega), if_pos (by omega), if_pos own]
    · by_cases stale : k ≤ before
      · rw [if_pos (by omega), if_neg own, if_pos stale]
      · rw [if_neg (by omega), if_neg (by omega), if_neg own, if_neg stale]

private theorem get?_bindFields_of_ne (n : Nat) {name : String}
    (other : ∀ k, n ≤ k → k < n + fields.length → fieldName k ≠ name) :
    (bindFields scope n fields).get? name = scope.get? name := by
  induction fields generalizing scope n with
  | nil => rfl
  | cons f fields ih =>
    rw [List.length_cons] at other
    rw [bindFields, ih _ _ fun k low high => other k (by omega) (by omega), Scope.get?_setScalar,
      if_neg (other n (Nat.le_refl n) (by omega))]

private theorem get?_unbindFields_of_ne (n count : Nat) {name : String}
    (other : ∀ k, n < k → k ≤ n + count → fieldName k ≠ name) :
    (unbindFields scope n count).get? name = scope.get? name := by
  induction count generalizing scope n with
  | zero => rfl
  | succ count ih =>
    rw [unbindFields, ih _ _ fun k low high => other k (by omega) (by omega), Scope.get?_erase,
      if_neg (other (n + 1) (Nat.lt_succ_self n) (by omega))]

/-- A record touches no names but those of its own fields, of the fields of the record before it,
and of the counts. -/
theorem get?_publish_of_ne {name : String} (noCount : name ∉ ["NF", "NR", "FNR"])
    (noField : ∀ k, k ≤ fields.length ∨ k ≤ before → fieldName k ≠ name) :
    (publish scope line fields before nr fnr).get? name = scope.get? name := by
  have counts : ∀ count ∈ ["NF", "NR", "FNR"], count ≠ name := by
    rintro count mem rfl
    exact noCount mem
  simp only [List.forall_mem_cons] at counts
  obtain ⟨nf, nrName, fnrName, -⟩ := counts
  simp only [publish, Scope.get?_setScalar]
  rw [if_neg fnrName, if_neg nrName, if_neg nf,
    get?_unbindFields_of_ne _ _ _ fun k _ high => noField k (by omega),
    get?_bindFields_of_ne _ _ _ fun k _ high => noField k (by omega), Scope.get?_setScalar,
    if_neg (noField 0 (.inl (Nat.zero_le _)))]

theorem get?_publish_of_unpublished {name : String} (other : isPublished name = false) :
    (publish scope line fields before nr fnr).get? name = scope.get? name := by
  have plain := hasFieldSign_of_unpublished other
  have noField (k : Nat) : fieldName k ≠ name := (ne_fieldName plain k).symm
  refine get?_publish_of_ne scope line fields before nr fnr ?_ fun k _ => noField k
  intro mem
  rw [isPublished, List.contains_iff_mem.mpr mem, Bool.or_true] at other
  cases other

theorem get?_publish_record :
    (publish scope line fields before nr fnr).get? "$0" = some (.scalar ⟨line⟩) :=
  get?_publish_fieldName scope line fields before nr fnr 0

theorem get?_publish_nf :
    (publish scope line fields before nr fnr).get? "NF" =
      some (.scalar (.ofCount fields.length)) := by
  simp [publish, Scope.get?_setScalar]

theorem get?_publish_nr :
    (publish scope line fields before nr fnr).get? "NR" = some (.scalar (.ofCount nr)) := by
  simp [publish, Scope.get?_setScalar]

theorem get?_publish_fnr :
    (publish scope line fields before nr fnr).get? "FNR" = some (.scalar (.ofCount fnr)) := by
  simp [publish, Scope.get?_setScalar]

end Publish

variable [Platform]

theorem advance_eq_some {r r' : Records} {scope scope' : Scope} {cache cache' : Pattern.Cache}
    (h : r.advance scope cache = .ok (some (r', scope', cache'))) :
    ∃ line fields, r.lines[r.position]? = some line ∧
      splitFields line.toList (scope.scalar "FS").text cache = .ok (fields, cache') ∧
      r' = ⟨r.lines, r.position + 1, r.nr + 1, r.fnr + 1, fields.length⟩ ∧
      scope' = publish scope line fields r.fields (r.nr + 1) (r.fnr + 1) := by
  unfold advance at h
  split at h
  · cases h
  · rename_i line found
    cases cut : splitFields line.toList (scope.scalar "FS").text cache with
    | error f =>
      rw [cut] at h
      cases h
    | ok result =>
      obtain ⟨fields, cache''⟩ := result
      rw [cut] at h
      obtain ⟨rfl, rfl, rfl⟩ : _ ∧ _ ∧ _ := by simpa using Except.ok.inj h
      exact ⟨line, fields, found, cut, rfl, rfl⟩

theorem advance_eq_none_iff {r : Records} {scope : Scope} {cache : Pattern.Cache} :
    r.advance scope cache = .ok Option.none ↔ r.lines.size ≤ r.position := by
  unfold advance
  split
  · rename_i absent
    simpa using Array.getElem?_eq_none_iff.mp absent
  · rename_i line found
    have inside : r.position < r.lines.size := (Array.getElem?_eq_some_iff.mp found).1
    cases splitFields line.toList (scope.scalar "FS").text cache with
    | error f => exact ⟨fun h => (nomatch h), fun h => by omega⟩
    | ok result =>
      refine ⟨fun h => ?_, fun h => by omega⟩
      have := Except.ok.inj h
      cases this

end Records

end PatternAction
