import Mathlib.Data.List.GetD
import Mathlib.Data.List.TakeWhile
import Mathlib.Data.Option.NAry
import PatternAction.Printf

/-!
Formats, item by item.  A format is a sequence of ordinary characters, doubled percent signs and
directives, and at its end there may be a directive that is cut off.  Where a directive ends does
not depend on what follows it, so items are laid out one by one, and the arguments go to the
directives from left to right: a known one takes the first argument that is left, everything else
takes none.
-/

set_option autoImplicit false
set_option relaxedAutoImplicit false

namespace PatternAction.Printf

/-! ## What formats are made of -/

/-- What a directive has in front of its conversion: flags, the digits of a width, and a point with
the digits of a precision, if there is one.  A zero in front of a width is a flag. -/
structure Opening where
  flags : List Char
  width : List Char
  /-- The digits behind the point, if there is a point. -/
  places? : Option (List Char)
  areFlags : ∀ c ∈ flags, isFlag c = true
  widthDigits : ∀ c ∈ width, c.isDigit = true
  noFlag : width.head? ≠ some '0'
  placesDigits : ∀ c ∈ places?.getD [], c.isDigit = true

namespace Opening

variable (o : Opening)

def point : List Char :=
  o.places?.elim [] ('.' :: ·)

def text : List Char :=
  o.flags ++ (o.width ++ o.point)

/-- A directive that is cut off in front of its conversion. -/
def format : String :=
  .ofList ('%' :: o.text)

/-- What is written there.  Digits that spell no number of 64 bits stand for no width, and for a
precision of zero. -/
def spec : Spec where
  left := o.flags.contains '-'
  plus := o.flags.contains '+'
  space := o.flags.contains ' '
  alternate := o.flags.contains '#'
  zero := o.flags.contains '0'
  width := size? o.width
  precision := o.places?.map fun ds => (size? ds).getD 0

/-- A character that goes on with none of the parts, and is a conversion therefore; it does not make
the sign in front of it a doubled one either. -/
structure EndsAt (c : Char) : Prop where
  noDigit : c.isDigit = false
  noPoint : o.places? = none → c ≠ '.'
  noFlag : o.width = [] → o.places? = none → isFlag c = false
  noPercent : o.text = [] → c ≠ '%'

instance (c : Char) : Decidable (o.EndsAt c) :=
  decidable_of_iff (c.isDigit = false ∧ (o.places? = none → c ≠ '.') ∧
      (o.width = [] → o.places? = none → isFlag c = false) ∧ (o.text = [] → c ≠ '%'))
    ⟨fun h => ⟨h.1, h.2.1, h.2.2.1, h.2.2.2⟩,
      fun h => ⟨h.noDigit, h.noPoint, h.noFlag, h.noPercent⟩⟩

end Opening

structure Directive where
  opening : Opening
  conversion : Char
  ends : opening.EndsAt conversion

namespace Directive

def text (d : Directive) : List Char :=
  '%' :: (d.opening.text ++ [d.conversion])

def format (d : Directive) : String :=
  .ofList d.text

end Directive

/-- The conversions that take an argument. -/
def conversions : List Char :=
  "sdifFeEgGoxXc".toList

/-- A complete part of a format. -/
inductive Item where
  | plain (c : Char) (ordinary : c ≠ '%')
  | percent
  | directive (d : Directive)

namespace Item

def text : Item → List Char
  | .plain c _ => [c]
  | .percent => ['%', '%']
  | .directive d => d.text

def takes : Item → Bool
  | .directive d => d.conversion ∈ conversions
  | _ => false

/-- What an item comes to, of which the first argument is the one to be taken. -/
def shown (args : List Scalar) : Item → Option (List Char)
  | .plain c _ => some [c]
  | .percent => some ['%']
  | .directive d =>
    match Conversion.ofChar? d.conversion with
    | some conversion => conversion.apply d.opening.spec (args.headD .empty)
    | none => some d.text

end Item

/-- The format that items make up. -/
def formatOf (items : List Item) : String :=
  .ofList (items.flatMap Item.text)

def allShown : List Scalar → List Item → Option (List Char)
  | _, [] => some []
  | args, i :: items =>
    .map₂ (· ++ ·) (i.shown args) (allShown (args.drop i.takes.toNat) items)

/-! ## Where a directive ends -/

theorem takeWhile_dropWhile_of_stops {p : Char → Bool} {front rest : List Char}
    (all : ∀ c ∈ front, p c = true) (stops : ∀ c ∈ rest.head?, p c = false) :
    (front ++ rest).takeWhile p = front ∧ (front ++ rest).dropWhile p = rest := by
  rw [List.takeWhile_append_of_pos all, List.dropWhile_append_of_pos all]
  cases rest with
  | nil => exact ⟨List.append_nil front, rfl⟩
  | cons c rest =>
    have other : ¬ p c = true := by simp [stops c rfl]
    rw [List.takeWhile_cons_of_neg other, List.dropWhile_cons_of_neg other]
    exact ⟨List.append_nil front, rfl⟩

private theorem isFlag_of_isDigit {c : Char} (digit : c.isDigit = true) (nonzero : c ≠ '0') :
    isFlag c = false := by
  have apart (d : Char) (other : d.isDigit = false) : c ≠ d := by
    rintro rfl
    rw [digit] at other
    cases other
  simp [isFlag, nonzero, apart '-' rfl, apart '+' rfl, apart ' ' rfl, apart '#' rfl]

private theorem precision_of_ne {cs : List Char} (other : cs.head? ≠ some '.') :
    precision cs = (none, cs) := by
  unfold precision
  split
  · exact absurd rfl other
  · rfl

namespace Opening

variable (o : Opening) {rest : List Char} (ends : ∀ c ∈ rest.head?, o.EndsAt c)
include ends

private theorem precision_point_append :
    precision (o.point ++ rest) = (o.places?.map fun ds => (size? ds).getD 0, rest) := by
  have digits := o.placesDigits
  unfold point
  cases behind : o.places? with
  | none =>
    refine precision_of_ne fun point => ?_
    exact (ends '.' point).noPoint behind rfl
  | some ds =>
    rw [behind, Option.getD_some] at digits
    obtain ⟨taken, left⟩ := takeWhile_dropWhile_of_stops digits fun c next => (ends c next).noDigit
    change (some ((size? ((ds ++ rest).takeWhile Char.isDigit)).getD 0),
      (ds ++ rest).dropWhile Char.isDigit) = _
    rw [taken, left]
    rfl

private theorem spec_text_append : Printf.spec (o.text ++ rest) = (o.spec, rest) := by
  have stopsPoint : ∀ c ∈ (o.point ++ rest).head?, c.isDigit = false := by
    unfold point
    cases o.places? with
    | none => exact fun c next => (ends c next).noDigit
    | some ds =>
      rintro c ⟨⟩
      rfl
  have stopsFlags : ∀ c ∈ (o.width ++ (o.point ++ rest)).head?, isFlag c = false := by
    have digits := o.widthDigits
    have nonzero := o.noFlag
    cases front : o.width with
    | cons d ds =>
      rw [front] at digits nonzero
      rintro c ⟨⟩
      exact isFlag_of_isDigit (digits d List.mem_cons_self) fun same => nonzero (same ▸ rfl)
    | nil =>
      unfold point
      cases behind : o.places? with
      | none => exact fun c next => (ends c next).noFlag front behind
      | some ds =>
        rintro c ⟨⟩
        rfl
  obtain ⟨flags, afterFlags⟩ := takeWhile_dropWhile_of_stops o.areFlags stopsFlags
  obtain ⟨width, afterWidth⟩ := takeWhile_dropWhile_of_stops o.widthDigits stopsPoint
  simp only [Printf.spec, text, List.append_assoc, flags, afterFlags, width, afterWidth,
    o.precision_point_append ends]
  rfl

end Opening

/-! ## One item -/

section Layout

variable (args : List Scalar)

private theorem layout_plain {c : Char} (ordinary : c ≠ '%') (cs : List Char) :
    layout args (c :: cs) = (layout args cs).map (c :: ·) := by
  rw [layout]
  · exact fun _ same => absurd same ordinary
  · exact fun same => absurd same ordinary

private theorem layout_percent (cs : List Char) :
    layout args ('%' :: '%' :: cs) = (layout args cs).map ('%' :: ·) := by
  rw [layout]

variable {cs : List Char} (single : cs.head? ≠ some '%')
include single

private theorem layout_cut (cut : (spec cs).2 = []) :
    layout args ('%' :: cs) = some ('%' :: cs) := by
  rw [layout]
  · split
    · rfl
    · rename_i more
      rw [cut] at more
      cases more
  · rintro rest rfl
    exact single rfl

private theorem layout_directive {c : Char} {rest : List Char} (next : (spec cs).2 = c :: rest) :
    layout args ('%' :: cs) =
      match Conversion.ofChar? c with
      | some conversion =>
        .map₂ (· ++ ·) (conversion.apply (spec cs).1 (args.headD .empty)) (layout args.tail rest)
      | none => (layout args rest).map ('%' :: cs.take (cs.length - rest.length) ++ ·) := by
  rw [layout]
  · split
    · rename_i cut
      rw [next] at cut
      cases cut
    · rename_i same
      rw [next] at same
      cases same
      rfl
  · rintro rest rfl
    exact single rfl

end Layout

private theorem ofChar?_eq_none_iff {c : Char} : Conversion.ofChar? c = none ↔ c ∉ conversions := by
  have listed : conversions =
      ['s', 'd', 'i', 'f', 'F', 'e', 'E', 'g', 'G', 'o', 'x', 'X', 'c'] := by decide
  rw [listed]
  unfold Conversion.ofChar?
  split <;> simp_all

private theorem mem_conversions_of_ofChar? {c : Char} {conversion : Conversion}
    (known : Conversion.ofChar? c = some conversion) : c ∈ conversions := by
  by_contra other
  rw [ofChar?_eq_none_iff.mpr other] at known
  cases known

private theorem Opening.percent_not_mem_text (o : Opening) : '%' ∉ o.text := by
  have noFlag : '%' ∉ o.flags := mt (o.areFlags '%') (by decide)
  have noWidth : '%' ∉ o.width := mt (o.widthDigits '%') (by decide)
  have noPlaces : '%' ∉ o.places?.getD [] := mt (o.placesDigits '%') (by decide)
  have noPoint : '%' ∉ o.point := by
    unfold point
    cases behind : o.places? with
    | none => exact List.not_mem_nil
    | some ds =>
      rw [behind, Option.getD_some] at noPlaces
      exact List.not_mem_cons_of_ne_of_not_mem (by decide) noPlaces
  simp only [text, List.mem_append, noFlag, noWidth, noPoint, or_self, not_false_eq_true]

private theorem Opening.head?_text_append (o : Opening) {rest : List Char}
    (ends : ∀ c ∈ rest.head?, o.EndsAt c) : (o.text ++ rest).head? ≠ some '%' := by
  cases written : o.text with
  | nil => exact fun same => (ends '%' same).noPercent written rfl
  | cons c cs =>
    rintro ⟨⟩
    exact o.percent_not_mem_text (written ▸ List.mem_cons_self)

private theorem layout_directive_append (d : Directive) (args : List Scalar) (rest : List Char) :
    layout args (d.text ++ rest) = .map₂ (· ++ ·) ((Item.directive d).shown args)
      (layout (args.drop (Item.directive d).takes.toNat) rest) := by
  let front := d.opening.text ++ [d.conversion]
  have ends : ∀ c ∈ (d.conversion :: rest).head?, d.opening.EndsAt c := by
    rintro c ⟨⟩
    exact d.ends
  have parts : front ++ rest = d.opening.text ++ d.conversion :: rest := List.append_assoc _ _ _
  have read : spec (front ++ rest) = (d.opening.spec, d.conversion :: rest) := by
    rw [parts, d.opening.spec_text_append ends]
  have single : (front ++ rest).head? ≠ some '%' := by
    rw [parts]
    exact d.opening.head?_text_append ends
  have copied : (front ++ rest).take ((front ++ rest).length - rest.length) = front := by
    rw [List.length_append, Nat.add_sub_cancel, List.take_left]
  change layout args ('%' :: (front ++ rest)) = _
  rw [layout_directive args single (congrArg Prod.snd read), read, copied, Item.shown, Item.takes]
  cases known : Conversion.ofChar? d.conversion with
  | some conversion =>
    rw [decide_eq_true (mem_conversions_of_ofChar? known), Bool.toNat_true, List.drop_one]
  | none =>
    rw [decide_eq_false (ofChar?_eq_none_iff.mp known)]
    rfl

private theorem layout_item_append (i : Item) (args : List Scalar) (rest : List Char) :
    layout args (i.text ++ rest) =
      .map₂ (· ++ ·) (i.shown args) (layout (args.drop i.takes.toNat) rest) := by
  cases i with
  | plain c ordinary => exact layout_plain args ordinary rest
  | percent => exact layout_percent args rest
  | directive d => exact layout_directive_append d args rest

/-! ## All items -/

private theorem countP_takes_cons (i : Item) (items : List Item) :
    (i :: items).countP Item.takes = i.takes.toNat + items.countP Item.takes := by
  rw [List.countP_cons, Nat.add_comm]
  cases i.takes <;> rfl

/-- Items in front of a format are laid out on their own, with as many arguments as they take. -/
theorem layout_items_append (items : List Item) (args : List Scalar) (rest : List Char) :
    layout args (items.flatMap Item.text ++ rest) = .map₂ (· ++ ·) (allShown args items)
      (layout (args.drop (items.countP Item.takes)) rest) := by
  induction items generalizing args with
  | nil => exact (Option.map₂_left_identity List.nil_append _).symm
  | cons i items ih =>
    rw [List.flatMap_cons, List.append_assoc, layout_item_append, ih, allShown, List.drop_drop,
      countP_takes_cons, Option.map₂_assoc List.append_assoc]

theorem layout_items (items : List Item) (args : List Scalar) :
    layout args (items.flatMap Item.text) = allShown args items := by
  have alone := layout_items_append items args []
  rw [List.append_nil] at alone
  rw [alone, layout]
  exact Option.map₂_right_identity List.append_nil _

private theorem shown_take_append (i : Item) (args : List Scalar) (count : Nat) :
    i.shown (args.take (i.takes.toNat + count)) = i.shown args := by
  cases i with
  | plain | percent => rfl
  | directive d =>
    cases known : Conversion.ofChar? d.conversion with
    | none => rw [Item.shown, Item.shown, known]
    | some conversion =>
      rw [Item.shown, Item.shown, known, Item.takes,
        decide_eq_true (mem_conversions_of_ofChar? known), Bool.toNat_true, Nat.add_comm]
      cases args <;> rfl

private theorem allShown_take (items : List Item) (args : List Scalar) :
    allShown (args.take (items.countP Item.takes)) items = allShown args items := by
  induction items generalizing args with
  | nil => rfl
  | cons i items ih =>
    rw [allShown, allShown, countP_takes_cons, shown_take_append, List.drop_take,
      Nat.add_sub_cancel_left, ih]

/-! ## All formats -/

private theorem stops_dropWhile (p : Char → Bool) (cs : List Char) :
    ∀ c ∈ (cs.dropWhile p).head?, p c = false := by
  intro c first
  have stop := List.head?_dropWhile_not p cs
  rw [first] at stop
  exact stop

private theorem exists_opening {cs : List Char} (single : cs.head? ≠ some '%') :
    ∃ o : Opening, ∃ rest, cs = o.text ++ rest ∧ ∀ c ∈ rest.head?, o.EndsAt c := by
  let afterFlags := cs.dropWhile isFlag
  let afterWidth := afterFlags.dropWhile Char.isDigit
  have flagsSplit : cs.takeWhile isFlag ++ afterFlags = cs := List.takeWhile_append_dropWhile
  have widthSplit : afterFlags.takeWhile Char.isDigit ++ afterWidth = afterFlags :=
    List.takeWhile_append_dropWhile
  have noFlag : (afterFlags.takeWhile Char.isDigit).head? ≠ some '0' := by
    intro zero
    have first : afterFlags.head? = some '0' := by
      rw [← widthSplit, List.head?_append, zero]
      rfl
    exact absurd (stops_dropWhile isFlag cs '0' first) (by decide)
  let bare : Opening := ⟨cs.takeWhile isFlag, afterFlags.takeWhile Char.isDigit, none,
    fun _ => List.mem_takeWhile_imp, fun _ => List.mem_takeWhile_imp, noFlag,
    List.forall_mem_nil _⟩
  by_cases point : afterWidth.head? = some '.'
  · obtain ⟨ds, behind⟩ := List.head?_eq_some_iff.mp point
    let o : Opening := { bare with
      places? := some (ds.takeWhile Char.isDigit)
      placesDigits := fun _ => List.mem_takeWhile_imp }
    have split : cs = o.text ++ ds.dropWhile Char.isDigit := by
      change cs = cs.takeWhile isFlag ++ (afterFlags.takeWhile Char.isDigit ++
        '.' :: ds.takeWhile Char.isDigit) ++ ds.dropWhile Char.isDigit
      rw [List.append_assoc, List.append_assoc, List.cons_append,
        List.takeWhile_append_dropWhile, ← behind, widthSplit, flagsSplit]
    have pointed : o.places? ≠ none := Option.some_ne_none _
    refine ⟨o, _, split, fun c next => ⟨stops_dropWhile _ _ c next, fun none => absurd none pointed,
      fun _ none => absurd none pointed, fun none => ?_⟩⟩
    rintro rfl
    rw [split, none] at single
    exact single next
  · have split : cs = bare.text ++ afterWidth := by
      change cs = cs.takeWhile isFlag ++ (afterFlags.takeWhile Char.isDigit ++ []) ++ afterWidth
      rw [List.append_nil, List.append_assoc, widthSplit, flagsSplit]
    refine ⟨bare, afterWidth, split, fun c next =>
      ⟨stops_dropWhile _ _ c next, fun _ => ?_, fun none _ => ?_, fun none => ?_⟩⟩
    · rintro rfl
      exact point next
    · have all : afterFlags = afterWidth := by
        rw [← widthSplit, show afterFlags.takeWhile Char.isDigit = [] from none]
        rfl
      rw [← all] at next
      exact stops_dropWhile isFlag cs c next
    · rintro rfl
      rw [split, none] at single
      exact single next

theorem exists_items (cs : List Char) : ∃ items : List Item,
    cs = items.flatMap Item.text ∨ ∃ o : Opening, cs = items.flatMap Item.text ++ '%' :: o.text :=
  match cs with
  | [] => ⟨[], .inl rfl⟩
  | c :: cs => by
    have more (i : Item) (rest : List Char) (first : c :: cs = i.text ++ rest) :
        ∃ items : List Item, c :: cs = items.flatMap Item.text ∨
          ∃ o : Opening, c :: cs = items.flatMap Item.text ++ '%' :: o.text := by
      have shorter : rest.length < (c :: cs).length := by
        rw [first, List.length_append]
        cases i <;> simp [Item.text, Directive.text]
      rw [first]
      obtain ⟨items, whole | ⟨o, whole⟩⟩ := exists_items rest
      · exact ⟨i :: items, .inl (by rw [List.flatMap_cons, ← whole])⟩
      · exact ⟨i :: items, .inr ⟨o, by rw [List.flatMap_cons, List.append_assoc, ← whole]⟩⟩
    by_cases sign : c = '%'
    · subst sign
      by_cases doubled : cs.head? = some '%'
      · obtain ⟨rest, rfl⟩ := List.head?_eq_some_iff.mp doubled
        exact more .percent rest rfl
      · obtain ⟨o, rest, split, ends⟩ := exists_opening doubled
        cases rest with
        | nil => exact ⟨[], .inr ⟨o, by rw [split, List.append_nil]; rfl⟩⟩
        | cons d rest =>
          refine more (.directive ⟨o, d, ends d rfl⟩) rest ?_
          rw [split]
          simp [Item.text, Directive.text]
    · exact more (.plain c sign) cs rfl
termination_by cs.length
decreasing_by exact shorter

/-! ## Arguments that are missing -/

private theorem allShown_congr {args args' : List Scalar}
    (same : ∀ i, args.getD i .empty = args'.getD i .empty) (items : List Item) :
    allShown args items = allShown args' items := by
  induction items generalizing args args' with
  | nil => rfl
  | cons i items ih =>
    have first : args.headD .empty = args'.headD .empty := by
      cases args <;> cases args' <;> exact same 0
    have rest (j : Nat) : (args.drop i.takes.toNat).getD j .empty =
        (args'.drop i.takes.toNat).getD j .empty := by
      simpa only [List.getD_eq_getElem?_getD, List.getElem?_drop] using same (i.takes.toNat + j)
    have shown : i.shown args = i.shown args' := by
      cases i with
      | plain | percent => rfl
      | directive d => rw [Item.shown, Item.shown, first]
    rw [allShown, allShown, shown, ih rest]

theorem layout_opening (o : Opening) (args : List Scalar) :
    layout args ('%' :: o.text) = some ('%' :: o.text) := by
  have read : spec (o.text ++ []) = (o.spec, []) := o.spec_text_append nofun
  have single : (o.text ++ []).head? ≠ some '%' := o.head?_text_append nofun
  rw [List.append_nil] at read single
  exact layout_cut args single (congrArg Prod.snd read)

private theorem layout_congr {args args' : List Scalar}
    (same : ∀ i, args.getD i .empty = args'.getD i .empty) (cs : List Char) :
    layout args cs = layout args' cs := by
  obtain ⟨items, rfl | ⟨o, rfl⟩⟩ := exists_items cs
  · rw [layout_items, layout_items, allShown_congr same]
  · rw [layout_items_append, layout_items_append, layout_opening, layout_opening,
      allShown_congr same]

private theorem getD_append_replicate {α : Type} (xs : List α) (a : α) (count i : Nat) :
    (xs ++ List.replicate count a).getD i a = xs.getD i a := by
  by_cases inside : i < xs.length
  · exact List.getD_append _ _ a i inside
  · have behind : xs.length ≤ i := Nat.le_of_not_lt inside
    rw [List.getD_append_right _ _ a i behind, List.getD_eq_default _ a behind,
      List.getD_eq_getElem?_getD, List.getElem?_getD_replicate_default_eq]

/-! ## Main statement -/

private theorem sprintf_items_append (items : List Item) (format : String) (args : List Scalar) :
    sprintf (formatOf items ++ format) args =
      .map₂ (· ++ ·) (sprintf (formatOf items) args)
        (sprintf format (args.drop (items.countP Item.takes))) := by
  have front : (formatOf items).toList = items.flatMap Item.text := String.toList_ofList
  rw [sprintf, sprintf, sprintf, String.toList_append, front, layout_items_append, layout_items]
  exact Option.map_map₂_distrib fun _ _ => String.ofList_append

private theorem sprintf_items (items : List Item) (args : List Scalar) :
    sprintf (formatOf items) args = (allShown args items).map .ofList := by
  have front : (formatOf items).toList = items.flatMap Item.text := String.toList_ofList
  rw [sprintf, front, layout_items]

theorem sprintf_item (i : Item) (args : List Scalar) :
    sprintf (.ofList i.text) args = (i.shown args).map .ofList := by
  have alone := sprintf_items [i] args
  have shown : allShown args [i] = i.shown args := Option.map₂_right_identity List.append_nil _
  rwa [shown, formatOf, List.flatMap_cons, List.flatMap_nil, List.append_nil] at alone

private theorem sprintf_opening (o : Opening) (args : List Scalar) :
    sprintf o.format args = some o.format := by
  have written : o.format.toList = '%' :: o.text := String.toList_ofList
  rw [sprintf, written, layout_opening]
  rfl

/-- Formatting goes through a format from left to right, item by item.  Items in front of any format
are laid out as they are alone, and take as many arguments as there are directives among them with a
known conversion: the format behind them gets the others, and of the others they see nothing.
Characters stand for themselves, and a doubled percent sign for one; a directive with an unknown
conversion is copied and takes no argument, and so is one that is cut off by the end.  Arguments
that are missing act as empty ones.  If one of two formats has no text, the one behind the other has
none. Every format is items, with perhaps a directive behind them that is cut off. -/
theorem sprintf_compositional (items : List Item) (format : String) (args : List Scalar) :
    let front := formatOf items
    let taken := items.countP Item.takes
    sprintf (front ++ format) args =
      .map₂ (· ++ ·) (sprintf front args) (sprintf format (args.drop taken)) ∧
    sprintf front args = sprintf front (args.take taken) ∧
    (∀ c ≠ '%', sprintf (.singleton c) args = some (.singleton c)) ∧
    sprintf "%%" args = some "%" ∧
    (∀ d : Directive, d.conversion ∉ conversions →
      (Item.directive d).takes = false ∧ sprintf d.format args = some d.format) ∧
    (∀ count, sprintf format (args ++ List.replicate count .empty) = sprintf format args) ∧
    (∀ o : Opening, sprintf (front ++ o.format) args = (sprintf front args).map (· ++ o.format)) ∧
    ∃ parts, format = formatOf parts ∨ ∃ o : Opening, format = formatOf parts ++ o.format := by
  intro front taken
  refine ⟨?_, ?_, fun c ordinary => sprintf_item (.plain c ordinary) args,
    sprintf_item .percent args, fun d unknown => ⟨decide_eq_false unknown, ?_⟩, fun count => ?_,
    fun o => ?_, ?_⟩
  · rw [sprintf_items_append]
  · rw [sprintf_items, sprintf_items, allShown_take]
  · have copied := sprintf_item (.directive d) args
    rwa [Item.shown, ofChar?_eq_none_iff.mpr unknown] at copied
  · refine congrArg (Option.map String.ofList) (layout_congr (fun i => ?_) _)
    exact getD_append_replicate args .empty count i
  · rw [sprintf_items_append, sprintf_opening, Option.map₂_coe_right]
  · obtain ⟨parts, whole | ⟨o, whole⟩⟩ := exists_items format.toList
    · exact ⟨parts, .inl (by rw [formatOf, ← whole, String.ofList_toList])⟩
    · refine ⟨parts, .inr ⟨o, ?_⟩⟩
      rw [formatOf, Opening.format, ← String.ofList_append, ← whole, String.ofList_toList]

/-- A directive with an unknown conversion between known ones, a doubled percent sign, and behind
the items a directive without an argument and one that is cut off. -/
theorem sprintf_compositional_mixed :
    let unknown : Directive := ⟨⟨['-', '0'], ['5'], some ['1'], List.all_eq_true.mp rfl,
      List.all_eq_true.mp rfl, by decide, List.all_eq_true.mp rfl⟩, 'q', by decide⟩
    let known : Directive := ⟨⟨['+', '0'], ['6'], none, List.all_eq_true.mp rfl,
      List.all_eq_true.mp rfl, by decide, List.forall_mem_nil _⟩, 'd', by decide⟩
    let items := [.plain 'a' (by decide), .directive known, .directive unknown, .percent]
    let args : List Scalar := [⟨"42"⟩, ⟨"b"⟩]
    'a' ≠ '%' ∧ unknown.conversion ∉ conversions ∧ formatOf items = "a%+06d%-05.1q%%" ∧
      sprintf unknown.format args = some "%-05.1q" ∧
      sprintf "a%+06d%-05.1q%%%s|%s|%.3" args = some "a+00042%-05.1q%b||%.3" := by
  intro unknown known items args
  have front : formatOf items = "a%+06d%-05.1q%%" := by decide +kernel
  have ordinary : 'a' ≠ '%' := by decide
  have other : unknown.conversion ∉ conversions := by decide
  have copied : unknown.format = "%-05.1q" := by decide +kernel
  obtain ⟨split, -, -, -, unknowns, -⟩ := sprintf_compositional items "%s|%s|%.3" args
  have verbatim := (unknowns unknown other).2
  have first : sprintf "a%+06d%-05.1q%%" args = some "a+00042%-05.1q%" := by decide +kernel
  have second : sprintf "%s|%s|%.3" (args.drop 1) = some "b||%.3" := by decide +kernel
  rw [front, first, show items.countP Item.takes = 1 by decide, second] at split
  rw [copied] at verbatim
  exact ⟨ordinary, other, front, copied ▸ verbatim, split⟩

end PatternAction.Printf
