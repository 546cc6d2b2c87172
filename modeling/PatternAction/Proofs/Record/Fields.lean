import PatternAction.Record

/-!
The fields of a text depend on the text and the separator only: patterns compiled before make no
difference, as long as each of them is what its text compiles to, and they stay so.
-/

set_option autoImplicit false
set_option relaxedAutoImplicit false

namespace PatternAction

variable [Platform]

/-- The fields of a text under a separator. -/
def fieldsOf (text : List Char) (separator : String) : Except Pattern.Fault (List (List Char)) :=
  (splitFields text separator .empty).map (·.1)

namespace Pattern.Cache

variable {c c' : Cache} {text : String} {p : Pattern}

theorem compile_empty (text : String) :
    empty.compile text =
      (Platform.compile text).map fun p => (p, ⟨empty.entries.insert text p⟩) := by
  rw [compile, show empty.entries[text]? = none by simp [empty]]
  cases Platform.compile text with
  | error f => rfl
  | ok p => rfl

theorem Sound.compile (sound : c.Sound) (h : c.compile text = .ok (p, c')) :
    Platform.compile text = .ok p ∧ c'.Sound := by
  unfold Cache.compile at h
  split at h
  · rename_i found
    obtain ⟨rfl, rfl⟩ := Prod.mk.inj (Except.ok.inj h)
    exact ⟨sound _ _ found, sound⟩
  · cases compiled : Platform.compile text with
    | error f =>
      rw [compiled] at h
      cases h
    | ok q =>
      rw [compiled] at h
      obtain ⟨rfl, rfl⟩ := Prod.mk.inj (Except.ok.inj h)
      refine ⟨rfl, fun other r found => ?_⟩
      rw [Std.TreeMap.getElem?_insert] at found
      split at found
      · rename_i same
        obtain rfl := Option.some.inj found
        obtain rfl : text = other := by simpa using same
        exact compiled
      · exact sound other r found

private theorem exists_compile {q : Pattern} (compiles : Platform.compile text = .ok q)
    (c : Cache) :
    ∃ found, c.compile text = .ok found := by
  unfold Cache.compile
  split
  · exact ⟨_, rfl⟩
  · rw [compiles]
    exact ⟨_, rfl⟩

end Pattern.Cache

/-! ## Cutting with patterns compiled before -/

private theorem splitFields_cases (text : List Char) (separator : String) :
    (∃ fields, ∀ c, splitFields text separator c = .ok (fields, c)) ∨
      (1 < separator.toList.length ∧ ∀ c, splitFields text separator c =
        (c.compile separator).map fun found => (found.1.split text, found.2)) := by
  by_cases empty : text.isEmpty = true
  · exact .inl ⟨[], fun c => by rw [splitFields, if_pos empty]⟩
  · match shape : separator.toList with
    | [] =>
      refine .inl ⟨text.map ([·]), fun c => ?_⟩
      rw [splitFields, if_neg empty, shape]
    | [sep] =>
      refine .inl ⟨if sep = ' ' then Text.words text else Text.pieces sep text, fun c => ?_⟩
      rw [splitFields, if_neg empty, shape]
    | d :: e :: rest =>
      refine .inr ⟨by simp, fun c => ?_⟩
      rw [splitFields, if_neg empty, shape]
      cases c.compile separator <;> rfl

theorem exists_splitFields {separator : String}
    (separates : separator.toList.length ≤ 1 ∨ ∃ q, Platform.compile separator = .ok q)
    (text : List Char) (c : Pattern.Cache) :
    ∃ fields c', splitFields text separator c = .ok (fields, c') := by
  rcases splitFields_cases text separator with ⟨fields, cut⟩ | ⟨long, cut⟩
  · exact ⟨fields, c, cut c⟩
  · obtain short | ⟨q, compiles⟩ := separates
    · omega
    · obtain ⟨found, compiled⟩ := Pattern.Cache.exists_compile compiles c
      refine ⟨found.1.split text, found.2, ?_⟩
      rw [cut, compiled]
      rfl

section

variable {text : List Char} {separator : String} {c c' : Pattern.Cache} {fields : List (List Char)}

theorem splitFields_ok_cases (h : splitFields text separator c = .ok (fields, c')) :
    (c' = c ∧ ∀ d, splitFields text separator d = .ok (fields, d)) ∨
      ∃ p, c.compile separator = .ok (p, c') ∧ ∀ d d', d.compile separator = .ok (p, d') →
        splitFields text separator d = .ok (fields, d') := by
  rcases splitFields_cases text separator with ⟨others, cut⟩ | ⟨-, cut⟩
  · rw [cut] at h
    obtain ⟨rfl, rfl⟩ := Prod.mk.inj (Except.ok.inj h)
    exact .inl ⟨rfl, cut⟩
  · rw [cut] at h
    cases compiled : c.compile separator with
    | error f =>
      rw [compiled] at h
      cases h
    | ok found =>
      rw [compiled] at h
      obtain ⟨rfl, rfl⟩ := Prod.mk.inj (Except.ok.inj h)
      refine .inr ⟨found.1, rfl, fun d d' again => ?_⟩
      rw [cut, again]
      rfl

theorem splitFields_error_cases {f : Pattern.Fault} (h : splitFields text separator c = .error f) :
    c.compile separator = .error f ∧ ∀ d g, d.compile separator = .error g →
      splitFields text separator d = .error g := by
  rcases splitFields_cases text separator with ⟨others, cut⟩ | ⟨-, cut⟩
  · rw [cut] at h
    cases h
  · rw [cut] at h
    cases compiled : c.compile separator with
    | ok found =>
      rw [compiled] at h
      cases h
    | error g =>
      rw [compiled] at h
      obtain rfl := Except.error.inj h
      refine ⟨rfl, fun d g again => ?_⟩
      rw [cut, again]
      rfl

theorem splitFields_sound (sound : c.Sound) (h : splitFields text separator c = .ok (fields, c')) :
    fieldsOf text separator = .ok fields ∧ c'.Sound := by
  obtain ⟨rfl, cut⟩ | ⟨p, compiled, cut⟩ := splitFields_ok_cases h
  · rw [fieldsOf, cut]
    exact ⟨rfl, sound⟩
  · obtain ⟨plain, sound'⟩ := sound.compile compiled
    have first : Pattern.Cache.empty.compile separator =
        .ok (p, ⟨Pattern.Cache.empty.entries.insert separator p⟩) := by
      rw [Pattern.Cache.compile_empty, plain]
      rfl
    rw [fieldsOf, cut _ _ first]
    exact ⟨rfl, sound'⟩

end

end PatternAction
