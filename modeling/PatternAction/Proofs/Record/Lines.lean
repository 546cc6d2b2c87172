import PatternAction.Proofs.Record.Splitting

/-!
Reading lines is the inverse of writing them.  A line is ended by a newline, or by a carriage return
and a newline, and the end of the last line may be left out.  Whichever ends are chosen, what is
read are the lines that were written, as long as no line has a newline in it or ends in a carriage
return; carriage returns further in front are part of their lines.
-/

set_option autoImplicit false
set_option relaxedAutoImplicit false

namespace PatternAction

open Text

/-! ## Lines and their ends -/

/-- What can stand at the end of a line. -/
inductive Ending where
  | newline
  | returnNewline
deriving DecidableEq, Repr

def Ending.text : Ending → String
  | .newline => "\n"
  | .returnNewline => "\r\n"

/-- Lines with their ends behind them. -/
def writtenLines (lines : List (String × Ending)) : String :=
  String.join (lines.map fun line => line.1 ++ line.2.text)

/-- A line that keeps apart from its end: no newline is in it, and no carriage return at its end. -/
structure IsLine (line : List Char) : Prop where
  whole : '\n' ∉ line
  ended : line.getLast? ≠ some '\r'

instance (line : List Char) : Decidable (IsLine line) :=
  decidable_of_iff ('\n' ∉ line ∧ line.getLast? ≠ some '\r')
    ⟨fun h => ⟨h.1, h.2⟩, fun h => ⟨h.whole, h.ended⟩⟩

/-! ## One line -/

private theorem dropReturn_append (line : List Char) : dropReturn (line ++ ['\r']) = line := by
  simp [dropReturn]

private theorem IsLine.dropReturn_eq {line : List Char} (h : IsLine line) :
    dropReturn line = line := by
  have ended := h.ended
  rw [List.getLast?_eq_head?_reverse] at ended
  unfold dropReturn
  split
  · rename_i rest reversed
    rw [reversed] at ended
    exact absurd rfl ended
  · rfl

private theorem linesOf_append_newline {line : List Char} (whole : '\n' ∉ line) (rest : List Char) :
    linesOf (line ++ '\n' :: rest) = dropReturn (dropReturn line) :: linesOf rest := by
  have cut : pieces '\n' (line ++ '\n' :: rest) = line :: pieces '\n' rest := by
    simp only [pieces_eq_splitOn]
    exact List.splitOn_append_cons_self_of_not_mem whole rest
  have more : pieces '\n' rest ≠ [] := (cutAt_pieces '\n' rest).nonempty
  obtain ⟨next, later, found⟩ := List.exists_cons_of_ne_nil more
  rw [linesOf, linesOf, cut, found, linesOfPieces]
  exact List.cons_ne_nil next later

private theorem linesOf_of_not_mem {text : List Char} (whole : '\n' ∉ text) (nonempty : text ≠ []) :
    linesOf text = [dropReturn text] := by
  have cut : pieces '\n' text = [text] := by
    rw [pieces_eq_splitOn]
    exact List.splitOn_eq_singleton whole
  have found : ¬ text.isEmpty = true := by simpa using nonempty
  rw [linesOf, cut, linesOfPieces, if_neg found]

private theorem IsLine.linesOf_append {line : List Char} (h : IsLine line) (ending : Ending)
    (rest : List Char) : linesOf (line ++ (ending.text.toList ++ rest)) = line :: linesOf rest := by
  cases ending with
  | newline =>
    have read := linesOf_append_newline h.whole rest
    rw [h.dropReturn_eq, h.dropReturn_eq] at read
    exact read
  | returnNewline =>
    -- The reader first finds the carriage return at the end of the line, and drops it.
    have whole : '\n' ∉ line ++ ['\r'] := by simpa using h.whole
    have read := linesOf_append_newline whole rest
    rw [dropReturn_append, h.dropReturn_eq, List.append_assoc] at read
    exact read

/-! ## All lines -/

private theorem toList_writtenLines_cons (line : String × Ending) (lines : List (String × Ending)) :
    (writtenLines (line :: lines)).toList =
      line.1.toList ++ (line.2.text.toList ++ (writtenLines lines).toList) := by
  simp [writtenLines, List.append_assoc]

private theorem linesOf_writtenLines {lines : List (String × Ending)}
    (plain : ∀ line ∈ lines, IsLine line.1.toList) (rest : List Char) :
    linesOf ((writtenLines lines).toList ++ rest) =
      lines.map (fun line => line.1.toList) ++ linesOf rest := by
  induction lines with
  | nil => rfl
  | cons line lines ih =>
    have first : IsLine line.1.toList := plain line List.mem_cons_self
    have later := ih fun other mem => plain other (List.mem_cons_of_mem line mem)
    rw [toList_writtenLines_cons, List.append_assoc, List.append_assoc, first.linesOf_append, later]
    rfl

/-- Reading lines is the inverse of writing them, each with an end of its own; the last line may be
written without an end, unless it is empty.  Of what is read, nothing has been delivered. -/
theorem Records.ofText_written {ended : List (String × Ending)} {last : Option String}
    (plain : ∀ line ∈ ended.map Prod.fst ++ last.toList, IsLine line.toList)
    (nonempty : ∀ line ∈ last, line ≠ "") :
    Records.ofText (writtenLines ended ++ last.getD "") =
      .ofLines (ended.map Prod.fst ++ last.toList) := by
  have before : ∀ line ∈ ended, IsLine line.1.toList := by
    intro line mem
    exact plain line.1 (List.mem_append_left _ (List.mem_map_of_mem mem))
  have strings : ended.map (String.ofList ∘ fun line => line.1.toList) = ended.map Prod.fst :=
    List.map_congr_left fun line _ => String.ofList_toList
  have rest : (linesOf (last.getD "").toList).map String.ofList = last.toList := by
    cases last with
    | none => rfl
    | some line =>
      have own : IsLine line.toList := plain line (by simp)
      have found : line.toList ≠ [] := by simpa using nonempty line rfl
      rw [Option.getD_some, linesOf_of_not_mem own.whole found, own.dropReturn_eq]
      simp
  rw [Records.ofText, String.toList_append, linesOf_writtenLines before, List.map_append,
    List.map_map, strings, rest]

/-- Both ends mixed, with empty lines, carriage returns within a line and in front of it, and no end
behind the last line. -/
theorem Records.ofText_written_mixed :
    let ended := [("one", Ending.returnNewline), ("", .newline), ("\rt\r\rwo", .newline),
      ("", .returnNewline)]
    let last := "th\rree"
    let text := "one\r\n\n\rt\r\rwo\n\r\nth\rree"
    (∀ line ∈ ended.map Prod.fst ++ [last], IsLine line.toList) ∧ last ≠ "" ∧
      writtenLines ended ++ last = text ∧
      Records.ofText text = .ofLines ["one", "", "\rt\r\rwo", "", "th\rree"] := by
  intro ended last text
  have plain : ∀ line ∈ ended.map Prod.fst ++ [last], IsLine line.toList := by decide
  have nonempty : ∀ line ∈ some last, line ≠ "" := by
    intro line mem
    rw [← Option.some.inj mem]
    decide
  have written : writtenLines ended ++ last = text := by decide +kernel
  have read := @Records.ofText_written ended (some last) plain nonempty
  rw [Option.getD_some, written] at read
  exact ⟨plain, nonempty last rfl, written, read⟩

end PatternAction
