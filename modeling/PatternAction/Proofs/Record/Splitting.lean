import PatternAction.Record
import PatternAction.Standard

/-!
Cutting a text loses nothing and invents nothing.  Fields between single characters are free of that
character and joined by it they are the text again.  Fields between blanks are not empty and free of
blanks, and the text is these fields with blanks around them.  In both cases there is only one way
to cut, so these facts say which fields there are.
-/

set_option autoImplicit false
set_option relaxedAutoImplicit false

namespace PatternAction

open Text

/-! ## Between single characters -/

/-- Fields without a character in them, which joined by it are the text. -/
structure CutAt (c : Char) (text : List Char) (fields : List (List Char)) : Prop where
  nonempty : fields ≠ []
  free : ∀ f ∈ fields, c ∉ f
  joined : [c].intercalate fields = text

theorem pieces_eq_splitOn (c : Char) (text : List Char) : pieces c text = text.splitOn c := by
  induction text with
  | nil => rfl
  | cons d text ih =>
    rw [List.splitOn_cons_eq_if_modifyHead, pieces, ih]
    simp only [beq_iff_eq]
    by_cases same : d = c
    · rw [if_pos same, if_pos same]
    · rw [if_neg same, if_neg same]
      cases cut : text.splitOn c with
      | nil => exact absurd cut (List.splitOn_ne_nil c text)
      | cons g gs => rfl

private theorem not_mem_of_mem_pieces {c : Char} {text f : List Char} (mem : f ∈ pieces c text) :
    c ∉ f := by
  induction text generalizing f with
  | nil =>
    rw [List.mem_singleton.mp mem]
    exact List.not_mem_nil
  | cons d text ih =>
    rw [pieces] at mem
    by_cases same : d = c
    · rw [if_pos same] at mem
      rcases List.mem_cons.mp mem with rfl | later
      · exact List.not_mem_nil
      · exact ih later
    · rw [if_neg same] at mem
      cases cut : pieces c text with
      | nil =>
        rw [cut] at mem
        rw [List.mem_singleton.mp mem, List.mem_singleton]
        exact fun eq => same eq.symm
      | cons g gs =>
        rw [cut] at mem ih
        rcases List.mem_cons.mp mem with rfl | later
        · have rest : c ∉ g := ih List.mem_cons_self
          intro mem'
          rcases List.mem_cons.mp mem' with eq | inner
          · exact same eq.symm
          · exact rest inner
        · exact ih (List.mem_cons_of_mem g later)

private theorem length_pieces (c : Char) (text : List Char) :
    (pieces c text).length = text.count c + 1 := by
  induction text with
  | nil => rfl
  | cons d text ih =>
    rw [pieces]
    by_cases same : d = c
    · rw [if_pos same, List.length_cons, ih, same, List.count_cons_self]
    · rw [if_neg same, List.count_cons_of_ne same]
      cases cut : pieces c text with
      | nil =>
        rw [cut] at ih
        cases ih
      | cons g gs =>
        rw [cut] at ih
        exact ih

theorem cutAt_pieces (c : Char) (text : List Char) : CutAt c text (pieces c text) where
  nonempty := by
    intro none
    have length := length_pieces c text
    rw [none] at length
    cases length
  free := fun _ => not_mem_of_mem_pieces
  joined := by rw [pieces_eq_splitOn, List.intercalate_splitOn]

private theorem CutAt.eq_pieces {c : Char} {text : List Char} {fields : List (List Char)}
    (cut : CutAt c text fields) : fields = pieces c text := by
  rw [pieces_eq_splitOn, ← cut.joined, List.splitOn_intercalate c cut.free cut.nonempty]

/-! ## Between blanks -/

/-- A field between blanks, and the blanks behind it. -/
structure Stretch where
  field : List Char
  gap : List Char
  nonempty : field ≠ []
  solid : ∀ c ∈ field, isBlank c = false
  blank : ∀ c ∈ gap, isBlank c = true

def Stretch.text (s : Stretch) : List Char :=
  s.field ++ s.gap

/-- The text is the fields with blanks around them.  In front of the first field and behind the last
one there may be none. -/
def Spaced (text : List Char) (fields : List (List Char)) : Prop :=
  ∃ (front : List Char) (stretches : List Stretch),
    (∀ c ∈ front, isBlank c = true) ∧ (∀ s ∈ stretches.dropLast, s.gap ≠ []) ∧
    text = front ++ stretches.flatMap Stretch.text ∧ fields = stretches.map Stretch.field

private theorem words_append_of_blank {front : List Char} (blank : ∀ c ∈ front, isBlank c = true)
    (text : List Char) : words (front ++ text) = words text := by
  induction front with
  | nil => rfl
  | cons c front ih =>
    have head : isBlank c = true := blank c List.mem_cons_self
    have rest := ih fun d mem => blank d (List.mem_cons_of_mem c mem)
    rw [← rest, List.cons_append, words, wordsFrom, if_pos head]
    rfl

private theorem wordsFrom_append_of_solid {field : List Char}
    (solid : ∀ c ∈ field, isBlank c = false) (current text : List Char) :
    wordsFrom current (field ++ text) = wordsFrom (field.reverse ++ current) text := by
  induction field generalizing current with
  | nil => rfl
  | cons c field ih =>
    have head : ¬ isBlank c = true := by
      rw [solid c List.mem_cons_self]
      exact Bool.false_ne_true
    have rest := ih (fun d mem => solid d (List.mem_cons_of_mem c mem)) (c :: current)
    rw [List.cons_append, wordsFrom, if_neg head, rest, List.reverse_cons, List.append_assoc]
    rfl

private theorem wordsFrom_of_ended {current text : List Char} (open' : current ≠ [])
    (ended : ∀ c ∈ text.head?, isBlank c = true) :
    wordsFrom current text = current.reverse :: words text := by
  have some : ¬ current.isEmpty = true := by simpa using open'
  cases text with
  | nil =>
    rw [wordsFrom, if_neg some]
    rfl
  | cons c text =>
    have head : isBlank c = true := ended c rfl
    rw [words, wordsFrom, wordsFrom, if_pos head, if_pos head, if_neg some]
    rfl

private theorem words_append_of_field {field text : List Char} (nonempty : field ≠ [])
    (solid : ∀ c ∈ field, isBlank c = false) (ended : ∀ c ∈ text.head?, isBlank c = true) :
    words (field ++ text) = field :: words text := by
  have open' : field.reverse ++ [] ≠ [] := by simpa using nonempty
  rw [words, wordsFrom_append_of_solid solid, wordsFrom_of_ended open' ended, List.append_nil,
    List.reverse_reverse]

private theorem words_flatMap_text {stretches : List Stretch}
    (apart : ∀ s ∈ stretches.dropLast, s.gap ≠ []) :
    words (stretches.flatMap Stretch.text) = stretches.map Stretch.field := by
  induction stretches with
  | nil => rfl
  | cons s rest ih =>
    rw [List.flatMap_cons, Stretch.text, List.append_assoc, List.map_cons]
    -- Behind the last field there may be no blank, but then there is nothing at all.
    have ended : ∀ c ∈ (s.gap ++ rest.flatMap Stretch.text).head?, isBlank c = true := by
      intro c head
      cases rest with
      | nil =>
        rw [List.flatMap_nil, List.append_nil] at head
        exact s.blank c (List.mem_of_mem_head? head)
      | cons t rest =>
        have gap : s.gap ≠ [] := apart s List.mem_cons_self
        obtain ⟨d, ds, same⟩ := List.exists_cons_of_ne_nil gap
        rw [same] at head
        have first : c = d := (Option.some.inj head).symm
        exact s.blank c (by rw [same, first]; exact List.mem_cons_self)
    have later : ∀ t ∈ rest.dropLast, t.gap ≠ [] := by
      intro t mem
      cases rest with
      | nil => cases mem
      | cons u rest => exact apart t (List.mem_cons_of_mem s mem)
    rw [words_append_of_field s.nonempty s.solid ended, words_append_of_blank s.blank, ih later]

private theorem Spaced.eq_words {text : List Char} {fields : List (List Char)}
    (spaced : Spaced text fields) :
    fields = words text := by
  obtain ⟨front, stretches, blank, apart, rfl, rfl⟩ := spaced
  rw [words_append_of_blank blank, words_flatMap_text apart]

-- One induction for both states of the scanner: between fields, and in a field that is still open.
private theorem exists_stretches (text : List Char) :
    Spaced text (words text) ∧
    ∃ (tail gap : List Char) (stretches : List Stretch),
      (∀ c ∈ tail, isBlank c = false) ∧ (∀ c ∈ gap, isBlank c = true) ∧
      (stretches ≠ [] → gap ≠ []) ∧ (∀ s ∈ stretches.dropLast, s.gap ≠ []) ∧
      text = tail ++ (gap ++ stretches.flatMap Stretch.text) ∧
      ∀ current ≠ [], wordsFrom current text =
        (current.reverse ++ tail) :: stretches.map Stretch.field := by
  induction text with
  | nil =>
    refine ⟨⟨[], [], nofun, nofun, rfl, rfl⟩, [], [], [], nofun, nofun, nofun, nofun, rfl, ?_⟩
    intro current open'
    rw [wordsFrom_of_ended open' (fun _ none => by cases none), List.append_nil]
    rfl
  | cons c text ih =>
    obtain ⟨⟨front, stretches, blank, apart, rejoined, cut⟩, tail, gap, stretches', solid, blank',
      parted, apart', rejoined', cut'⟩ := ih
    by_cases head : isBlank c = true
    · have longer : ∀ d ∈ c :: front, isBlank d = true := by
        intro d mem
        rcases List.mem_cons.mp mem with rfl | later
        · exact head
        · exact blank d later
      have skipped : words (c :: text) = words text := by
        rw [words, wordsFrom, if_pos head]
        rfl
      refine ⟨⟨c :: front, stretches, longer, apart, ?_, skipped.trans cut⟩,
        [], c :: front, stretches, nofun, longer, fun _ => List.cons_ne_nil c front, apart, ?_, ?_⟩
      · rw [rejoined, List.cons_append]
      · rw [rejoined, List.nil_append, List.cons_append]
      · intro current open'
        have ended : ∀ d ∈ (c :: text).head?, isBlank d = true := by
          intro d first
          rw [← Option.some.inj first]
          exact head
        rw [wordsFrom_of_ended open' ended, skipped, cut, List.append_nil]
    · have longer : ∀ d ∈ c :: tail, isBlank d = false := by
        intro d mem
        rcases List.mem_cons.mp mem with rfl | later
        · exact Bool.eq_false_iff.mpr head
        · exact solid d later
      have joins (current : List Char) :
          wordsFrom current (c :: text) = wordsFrom (c :: current) text := by
        rw [wordsFrom, if_neg head]
      let s : Stretch := ⟨c :: tail, gap, List.cons_ne_nil c tail, longer, blank'⟩
      refine ⟨⟨[], s :: stretches', nofun, ?_, ?_, ?_⟩,
        c :: tail, gap, stretches', longer, blank', parted, apart', ?_, ?_⟩
      · intro t mem
        cases stretches' with
        | nil => cases mem
        | cons u rest =>
          rcases List.mem_cons.mp mem with rfl | later
          · exact parted (List.cons_ne_nil u rest)
          · exact apart' t later
      · rw [rejoined', List.nil_append, List.flatMap_cons, Stretch.text, List.append_assoc]
        rfl
      · rw [words, joins, cut' [c] (List.cons_ne_nil c [])]
        rfl
      · rw [rejoined', List.cons_append]
      · intro current open'
        rw [joins, cut' (c :: current) (List.cons_ne_nil c current), List.reverse_cons,
          List.append_assoc]
        rfl

section AnyPlatform

variable [Platform]

/-! ## All separators -/

/-- Cutting a text into fields neither loses nor invents anything.  An empty text has no fields
under any separator.  In any other text a single character other than a space cuts at each of its
occurrences, a space takes the blanks away, and nothing cuts between all characters; no other fields
than those that are returned fit the text in that way. -/
theorem splitFields_lossless (text : List Char) (cache : Pattern.Cache) :
    (∀ separator, splitFields [] separator cache = .ok ([], cache)) ∧
    (text ≠ [] →
      (∀ c ≠ ' ', ∃ fields, splitFields text (String.singleton c) cache = .ok (fields, cache) ∧
        CutAt c text fields ∧ fields.length = text.count c + 1 ∧
        ∀ other, CutAt c text other → other = fields) ∧
      (∃ fields, splitFields text " " cache = .ok (fields, cache) ∧ Spaced text fields ∧
        ∀ other, Spaced text other → other = fields) ∧
      splitFields text "" cache = .ok (text.map ([·]), cache)) := by
  refine ⟨fun _ => rfl, fun nonempty => ?_⟩
  have some : ¬ text.isEmpty = true := by simpa using nonempty
  refine ⟨fun c other => ⟨pieces c text, ?_, cutAt_pieces c text, length_pieces c text,
    fun _ cut => cut.eq_pieces⟩, ⟨words text, ?_, (exists_stretches text).1,
    fun _ spaced => spaced.eq_words⟩, ?_⟩
  · have single : (String.singleton c).toList = [c] := String.toList_singleton c
    rw [splitFields, if_neg some, single]
    dsimp only
    rw [if_neg other]
  · rw [splitFields, if_neg some]
    rfl
  · rw [splitFields, if_neg some]
    rfl

end AnyPlatform

/-- A text that begins and ends with separators and blanks, with two of each beside each other. -/
theorem splitFields_lossless_adjacent :
    let text := ";a  b;;c\t;".toList
    let none := Pattern.Cache.empty
    text ≠ [] ∧
      splitFields text ";" none = .ok ([[], "a  b".toList, [], "c\t".toList, []], none) ∧
      CutAt ';' text [[], "a  b".toList, [], "c\t".toList, []] ∧
      Spaced text [";a".toList, "b;;c".toList, ";".toList] := by
  intro text none
  have nonempty : text ≠ [] := by decide
  obtain ⟨-, cuts⟩ := splitFields_lossless text none
  obtain ⟨single, ⟨fields, split, spaced, -⟩, -⟩ := cuts nonempty
  obtain ⟨fields', split', cut, -⟩ := single ';' (by decide)
  obtain ⟨rfl, -⟩ := Prod.mk.inj (Except.ok.inj split)
  obtain ⟨rfl, -⟩ := Prod.mk.inj (Except.ok.inj split')
  exact ⟨nonempty, split', cut, spaced⟩

end PatternAction
