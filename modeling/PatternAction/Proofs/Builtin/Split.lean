import PatternAction.Proofs.Builtin.Calls
import PatternAction.Proofs.Run.Advance
import PatternAction.Proofs.Run.Reading
import PatternAction.Standard

/-!
Splitting the text of a record.  The fields of a record are bound one by one under names that hold
their numbers, and `split` puts the fields of a text into an array under their numbers.  For the
same text and the same separator these are the same fields, and what the array and the record were
before makes no difference.
-/

set_option autoImplicit false
set_option relaxedAutoImplicit false

namespace PatternAction

section AnyPlatform

variable [Platform]

/-! ## Cutting a text again -/

private theorem splitFields_again {text : List Char} {separator : String} {c c' d : Pattern.Cache}
    {fields : List (List Char)} (h : splitFields text separator c = .ok (fields, c'))
    (grown : c'.Grows d) : splitFields text separator d = .ok (fields, d) := by
  obtain ⟨-, cut⟩ | ⟨p, compiled, cut⟩ := splitFields_ok_cases h
  · exact cut d
  · have held : c'.entries[separator]? = some p := by
      rw [Pattern.Cache.getElem?_of_compile compiled, if_pos rfl]
    have again : d.compile separator = .ok (p, d) := by
      rw [Pattern.Cache.compile, grown.kept separator p held]
    exact cut d d again

/-! ## Arrays of fields -/

omit [Platform] in
private theorem Scalar.ofCount_injective {m n : Nat} (h : (ofCount m).text = (ofCount n).text) :
    m = n :=
  fieldName_injective (congrArg ("$" ++ ·) h)

def insertFields (t : Table) (n : Nat) (fields : List String) : Table :=
  (fields.zipIdx n).foldl (fun t (f, i) => t.insert (Scalar.ofCount i).text ⟨f⟩) t

omit [Platform] in
private theorem insertFields_cons (t : Table) (n : Nat) (f : String) (fields : List String) :
    insertFields t n (f :: fields) =
      insertFields (t.insert (Scalar.ofCount n).text ⟨f⟩) (n + 1) fields :=
  rfl

omit [Platform] in
private theorem getElem?_insertFields (t : Table) (n : Nat) (fields : List String) (k : Nat) :
    (insertFields t n fields)[(Scalar.ofCount k).text]? =
      if n ≤ k ∧ k < n + fields.length then fields[k - n]?.map Scalar.mk
      else t[(Scalar.ofCount k).text]? := by
  induction fields generalizing t n with
  | nil =>
    rw [if_neg (by simp only [List.length_nil]; omega)]
    rfl
  | cons f fields ih =>
    rw [insertFields_cons, ih, List.length_cons]
    by_cases here : n = k
    · subst here
      rw [if_neg (by omega), Std.TreeMap.getElem?_insert_self, if_pos (by omega), Nat.sub_self]
      rfl
    · have other : (Scalar.ofCount n).text ≠ (Scalar.ofCount k).text :=
        fun same => here (Scalar.ofCount_injective same)
      rw [Std.TreeMap.getElem?_insert, if_neg (mt Std.LawfulEqOrd.eq_of_compare other)]
      by_cases later : n + 1 ≤ k ∧ k < n + 1 + fields.length
      · rw [if_pos later, if_pos (by omega), show k - n = k - (n + 1) + 1 by omega]
        rfl
      · rw [if_neg later, if_neg (by omega)]

omit [Platform] in
private theorem contains_insertFields (t : Table) (n : Nat) (fields : List String) (key : String) :
    (insertFields t n fields).contains key = true ↔
      (∃ k, n ≤ k ∧ k < n + fields.length ∧ key = (Scalar.ofCount k).text) ∨
        t.contains key = true := by
  induction fields generalizing t n with
  | nil =>
    have none : ¬ ∃ k, n ≤ k ∧ k < n + ([] : List String).length ∧
        key = (Scalar.ofCount k).text := by
      rintro ⟨k, low, high, -⟩
      simp only [List.length_nil] at high
      omega
    rw [or_iff_right none]
    rfl
  | cons f fields ih =>
    rw [insertFields_cons, ih, List.length_cons, Std.TreeMap.contains_insert]
    simp only [Bool.or_eq_true, beq_iff_eq, Std.LawfulEqOrd.compare_eq_iff_eq]
    constructor
    · rintro (⟨k, low, high, same⟩ | same | before)
      · exact .inl ⟨k, by omega, by omega, same⟩
      · exact .inl ⟨n, by omega, by omega, same.symm⟩
      · exact .inr before
    · rintro (⟨k, low, high, same⟩ | before)
      · by_cases here : n = k
        · subst here
          exact .inr (.inl same.symm)
        · exact .inl ⟨k, by omega, by omega, same⟩
      · exact .inr (.inr before)

/-! ## Splitting -/

private theorem Builtin.apply_split {text : Scalar} {m : Machine} {fields : List (List Char)}
    {c : Pattern.Cache}
    (cut : splitFields text.chars (m.globals.scalar "FS").text m.cache = .ok (fields, c))
    (old : Value) :
    Builtin.split.apply [.scalar text, old] m =
      .ok (.ofCount fields.length,
        [.scalar text, .array (insertFields ∅ 1 (fields.map String.ofList))])
        { m with cache := c } := by
  have cut' : Run.fields text (m.globals.scalar "FS") m = .ok fields { m with cache := c } := by
    rw [Run.fields, cut]
  exact Run.bind_ok cut'

/-- The record, its fields and the separator are as they were, and so are the patterns held. -/
structure Machine.KeepsRecord (m m' : Machine) : Prop where
  bound : ∀ name, name ∈ ["FS", "NF"] ∨ hasFieldSign name = true →
    m'.globals.get? name = m.globals.get? name
  grown : m.cache.Grows m'.cache

/-- An array holds the fields of the record.  There are as many as `NF` says, the keys are the
numbers of these fields, and the element under each of them is the field of that number. -/
structure Machine.HoldsFields (m : Machine) (name : String) (n : Nat) : Prop where
  count : m.globals.get? "NF" = some (.scalar (.ofCount n))
  array : ∃ t, m.lookup name = some (.array t) ∧
    (∀ key, t.contains key = true ↔ ∃ k, 1 ≤ k ∧ k ≤ n ∧ key = (Scalar.ofCount k).text) ∧
    ∀ k, 1 ≤ k → k ≤ n → ∃ s, t[(Scalar.ofCount k).text]? = some s ∧
      m.globals.get? (fieldName k) = some (.scalar s)

namespace Machine

variable {m m₁ m₂ m₃ : Machine} {line name : String} {fields : List (List Char)}

private theorem KeepsRecord.separator (kept : m₁.KeepsRecord m₂) :
    m₂.globals.scalar "FS" = m₁.globals.scalar "FS" := by
  rw [Scope.scalar, Scope.scalar, kept.bound "FS" (.inl (by decide))]

private theorem Delivers.separator (delivers : m.Delivers line fields m₁) :
    m₁.globals.scalar "FS" = m.globals.scalar "FS" := by
  have unbound : ∀ k, fieldName k ≠ "FS" := fun k => (ne_fieldName (by decide) k).symm
  rw [Scope.scalar, Scope.scalar, delivers.others "FS" (by decide) fun k _ => unbound k]

omit [Platform] in
private theorem get?_globals_store {other : String} (ne : name ≠ other) (value : Value)
    (m : Machine) :
    (m.mapScopeOf name (·.insert name value)).globals.get? other = m.globals.get? other := by
  unfold mapScopeOf
  split
  · exact (m.globals.get?_insert name other value).trans (if_neg ne)
  · split
    · exact (m.globals.get?_insert name other value).trans (if_neg ne)
    · rfl

private theorem Delivers.holdsFields (delivers : m.Delivers line fields m₁)
    (kept : m₁.KeepsRecord m₂)
    (noCount : name ≠ "NF") (noField : hasFieldSign name = false) (cache : Pattern.Cache) :
    ({ m₂ with cache := cache }.mapScopeOf name
      (·.insert name (.array (insertFields ∅ 1 (fields.map String.ofList))))).HoldsFields name
        fields.length where
  count := by
    rw [get?_globals_store noCount]
    exact (kept.bound "NF" (.inl (by decide))).trans delivers.nf
  array := by
    refine ⟨_, by rw [lookup_store, if_pos rfl], fun key => ?_, fun k low high => ?_⟩
    · rw [contains_insertFields, List.length_map]
      have before : (∅ : Table).contains key ≠ true := by simp
      rw [or_iff_left before]
      constructor
      · rintro ⟨k, low, high, same⟩
        exact ⟨k, low, by omega, same⟩
      · rintro ⟨k, low, high, same⟩
        exact ⟨k, low, by omega, same⟩
    · obtain ⟨i, rfl⟩ : ∃ i, k = i + 1 := ⟨k - 1, by omega⟩
      have inside : i < fields.length := by omega
      refine ⟨.ofChars fields[i], ?_, ?_⟩
      · rw [getElem?_insertFields, List.length_map, if_pos (by omega), Nat.add_sub_cancel,
          List.getElem?_map, List.getElem?_eq_getElem inside]
        rfl
      · rw [get?_globals_store (ne_fieldName noField _)]
        exact (kept.bound _ (.inr (hasFieldSign_fieldName _))).trans (delivers.field i inside)

end Machine

/-- Splitting a text and delivering it as a record come to the same.  Let the separator be of one
character at most, or a pattern.  Then the next line is delivered; and as long as its record is
there, `split` of that line into a variable, other than `NF`, answers as many fields as `NF` says
and leaves them, and nothing else, in the variable, whatever it meant before. -/
theorem Program.split_agrees (p : Program) {m : Machine} {line : String}
    (next : m.records.lines[m.records.position]? = some line)
    (separates : (m.globals.scalar "FS").chars.length ≤ 1 ∨
      ∃ q, Platform.compile (m.globals.scalar "FS").text = .ok q) :
    ∃ m₁ fields, Run.advance m = .ok true m₁ ∧ m.Delivers line fields m₁ ∧
      ∀ e m' m₂, p.Passes [e] m' [.scalar ⟨line⟩] m₂ → m₁.KeepsRecord m₂ →
        ∀ name, name ≠ "NF" → hasFieldSign name = false → ∀ l l', ∃ m₃,
          p.Yields (.call "split" [e, .var name l] l') m' (.ofCount fields.length) m₃ ∧
            m₃.HoldsFields name fields.length := by
  obtain ⟨usedUp, -⟩ | ⟨line', f, next', uncut, -⟩ | ⟨line', fields, m₁, taken, delivers⟩ :=
    Run.advance?_cases m
  · rw [Array.getElem?_eq_none usedUp] at next
    cases next
  · obtain ⟨fields, c, cut⟩ := exists_splitFields separates line'.toList m.cache
    rw [cut] at uncut
    cases uncut
  · obtain rfl : line = line' := Option.some.inj (next.symm.trans delivers.next)
    refine ⟨m₁, fields, Run.bind_ok taken, delivers, ?_⟩
    intro e m' m₂ passed kept name noCount noField l l'
    have cut : splitFields line.toList (m₂.globals.scalar "FS").text m₂.cache =
        .ok (fields, m₂.cache) := by
      rw [kept.separator, delivers.separator]
      exact splitFields_again delivers.cut kept.grown
    have applied := Builtin.apply_split cut ((m₂.lookup name).getD .empty)
    have passed' := passed.append (.var name l m₂)
    refine ⟨_, passed'.call rfl applied ?_ l', delivers.holdsFields kept noCount noField m₂.cache⟩
    rw [List.singleton_append, Eval.writeBack_scalar]
    rfl

end AnyPlatform

/-- A record cut by a pattern, and split into a variable of a call that means an array already. -/
theorem Program.split_agrees_local :
    let old : Table := (∅ : Table).insert "9" ⟨"old"⟩
    let m := { (Machine.ofRecords (.ofLines ["a;b;;c"])).setGlobal "FS" ";;" with
      frames := [Scope.empty.insert "parts" (.array old)] }
    let record := Expr.unary .dollar (.const "0") .unknown
    let call := Expr.call "split" [record, .var "parts" .unknown] .unknown
    m.records.lines[m.records.position]? = some "a;b;;c" ∧
      (∃ q, Platform.compile (m.globals.scalar "FS").text = .ok q) ∧
      ∃ m₁ m₃, Run.advance m = .ok true m₁ ∧ Program.empty.Yields call m₁ ⟨"2"⟩ m₃ ∧
        m₃.HoldsFields "parts" 2 := by
  intro old m record call
  have next : m.records.lines[m.records.position]? = some "a;b;;c" := by decide +kernel
  have separates : ∃ q, Platform.compile (m.globals.scalar "FS").text = .ok q := by
    have compiles : (Platform.compile (m.globals.scalar "FS").text).toBool = true := by
      decide +kernel
    cases compiled : Platform.compile (m.globals.scalar "FS").text with
    | error f =>
      rw [compiled] at compiles
      cases compiles
    | ok q => exact ⟨q, rfl⟩
  refine ⟨next, separates, ?_⟩
  obtain ⟨m₁, fields, taken, delivers, agrees⟩ :=
    split_agrees Program.empty next (.inr separates)
  have count : fields.length = 2 := by
    have cut : (splitFields "a;b;;c".toList (m.globals.scalar "FS").text m.cache).toOption.map
        (·.1.length) = some 2 := by decide +kernel
    rw [delivers.cut] at cut
    exact Option.some.inj cut
  have evaluated : Program.empty.eval 2 record m₁ = .ok (.scalar ⟨"a;b;;c"⟩) m₁ := by
    have name : Eval.fieldName ⟨"0"⟩ = "$0" := by decide +kernel
    change EStateM.Result.ok (Value.scalar (m₁.globals.scalar (Eval.fieldName ⟨"0"⟩))) m₁ = _
    rw [name, Scope.scalar, delivers.record]
  have kept : m₁.KeepsRecord m₁ := ⟨fun _ _ => rfl, .refl _⟩
  obtain ⟨m₃, yields, holds⟩ := agrees record m₁ m₁ (.value ⟨2, evaluated⟩ (.nil m₁)) kept "parts"
    (by decide) (by decide) .unknown .unknown
  rw [count] at yields holds
  exact ⟨m₁, m₃, taken, yields, holds⟩

end PatternAction
