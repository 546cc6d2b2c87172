import PatternAction.Proofs.Record.Fields
import PatternAction.Proofs.Run.Composed
import PatternAction.Proofs.Run.Trace
import PatternAction.Proofs.Script.LockstepStmt
import PatternAction.Proofs.Token.Cut
import PatternAction.Script.Source

/-!
Each stage fails only in its own way.  A text that is no script is refused by the lexer or by the
parser, at a place in the text.  A script that fails while it runs fails for a cause of the run, or
for the sake of a text that was to be a pattern and is none.  A run that is aborted has no fault; it
is aborted by a step that lays out a number with too many places.
-/

set_option autoImplicit false
set_option relaxedAutoImplicit false

namespace PatternAction

/-! ## Reading a script -/

/-- A place behind some part of a text. -/
def Location.Inside (l : Location) (text : List Char) : Prop :=
  ∃ part, part <+: text ∧ l = .behind part

namespace Token

private theorem Cut.inside {before cs : List Char} {tokens : List Token} {fault? : Option LexFault}
    (h : Cut before cs tokens fault?) :
    (∀ t ∈ tokens, t.location.Inside (before ++ cs)) ∧
      ∀ f ∈ fault?, f.location.Inside (before ++ cs) := by
  induction h with
  | @done before gap _ =>
    refine ⟨fun t mem => ⟨before ++ gap, List.prefix_rfl, ?_⟩, nofun⟩
    rw [List.mem_singleton.mp mem]
  | @stuck before gap rest cause _ _ =>
    refine ⟨nofun, fun f same => ⟨before ++ gap, ⟨rest, List.append_assoc _ _ _⟩, ?_⟩⟩
    rw [← Option.some.inj same]
  | @token before gap lexeme rest kind tokens fault? _ _ _ _ ih =>
    rw [List.append_assoc, List.append_assoc] at ih
    refine ⟨fun t mem => ?_, ih.2⟩
    rcases List.mem_cons.mp mem with rfl | later
    · exact ⟨before ++ gap, ⟨lexeme ++ rest, List.append_assoc _ _ _⟩, rfl⟩
    · exact ih.1 t later

variable {source : String}

private theorem inside_of_fault {f : LexFault} (refused : tokenize source = .error f) :
    f.location.Inside source.toList := by
  have cut : Cut [] source.toList (scan source).tokens (scan source).fault? :=
    scanFrom_cut [] source.toList
  unfold tokenize at refused
  split at refused
  · rename_i fault found
    cases refused
    exact cut.inside.2 f found
  · cases refused

private theorem inside_of_mem {tokens : List Token} (read : tokenize source = .ok tokens)
    {t : Token} (mem : t ∈ Cursor.complete tokens) : t.location.Inside source.toList := by
  have cut : Cut [] source.toList (scan source).tokens (scan source).fault? :=
    scanFrom_cut [] source.toList
  unfold tokenize at read
  split at read
  · cases read
  · rename_i none
    cases read
    have whole : Cursor.complete (scan source).tokens = (scan source).tokens := by
      obtain ⟨front, -, split⟩ := cut.eof
      rw [none] at split
      simp [Cursor.complete, split]
    exact cut.inside.1 t (whole ▸ mem)

end Token

variable [Platform]

/-! ## Running a script -/

/-- It is on account of a text that is no pattern that a pattern is blamed. -/
def Pattern.Fault.Founded (f : Pattern.Fault) : Prop :=
  ∃ text, Platform.compile text = .error f

private theorem Pattern.Cache.founded_of_compile {c : Pattern.Cache} {text : String}
    {f : Pattern.Fault} (h : c.compile text = .error f) : f.Founded := by
  unfold Cache.compile at h
  split at h
  · cases h
  · cases compiled : Platform.compile text with
    | error g =>
      rw [compiled] at h
      cases h
      exact ⟨text, compiled⟩
    | ok p =>
      rw [compiled] at h
      cases h

private theorem founded_of_splitFields {text : List Char} {separator : String} {c : Pattern.Cache}
    {f : Pattern.Fault} (h : splitFields text separator c = .error f) : f.Founded :=
  Pattern.Cache.founded_of_compile (splitFields_error_cases h).1

private theorem Records.founded_of_advance {r : Records} {scope : Scope} {c : Pattern.Cache}
    {f : Pattern.Fault} (h : r.advance scope c = .error f) : f.Founded := by
  unfold advance at h
  split at h
  · cases h
  · rename_i line _
    cases cut : splitFields line.toList (scope.scalar "FS").text c with
    | error g =>
      rw [cut] at h
      cases h
      exact founded_of_splitFields cut
    | ok result =>
      rw [cut] at h
      cases h

namespace Run

def HaltsBy {α : Type} (ways : RunHalt → Prop) (x : Run α) : Prop :=
  ∀ m m' halt, x m = .error halt m' → ways halt

variable {α β : Type} {ways : RunHalt → Prop}

omit [Platform] in
theorem HaltsBy.bind {x : Run α} {f : α → Run β} (hx : x.HaltsBy ways)
    (hf : ∀ a, (f a).HaltsBy ways) : (x >>= f).HaltsBy ways := by
  intro m m' halt failed
  cases first : x m with
  | ok a m₁ =>
    rw [bind_ok first] at failed
    exact hf a m₁ m' halt failed
  | error halt₁ m₁ =>
    rw [bind_error first] at failed
    cases failed
    exact hx m m' halt first

omit [Platform] in
theorem HaltsBy.withFrame {body : Run α} (h : body.HaltsBy ways) (frame : Scope) :
    (Run.withFrame frame body).HaltsBy ways := by
  intro m m' halt failed
  simp only [Run.withFrame] at failed
  cases inner : body { m with frames := frame :: m.frames } with
  | ok a m₁ =>
    rw [inner] at failed
    cases failed
  | error halt₁ m₁ =>
    rw [inner] at failed
    cases failed
    exact h _ m₁ halt inner

section Ways

variable (patterns : ∀ f : Pattern.Fault, f.Founded → ways (.fault (.pattern f)))
variable (aborts : ways .aborted)
include patterns aborts

/-- A step fails only for the sake of a text that is no pattern, or aborts the run. -/
theorem haltsBy_step (s : Step) : s.run.HaltsBy ways := by
  intro m m' halt failed
  cases s with
  | pattern text =>
    simp only [Step.run, Run.pattern] at failed
    split at failed
    · cases failed
    · rename_i compiled
      cases failed
      exact patterns _ (Pattern.Cache.founded_of_compile compiled)
  | format fmt args =>
    simp only [Step.run, Run.format] at failed
    split at failed
    · cases failed
    · cases failed
      exact aborts
  | fields text separator =>
    simp only [Step.run, Run.fields] at failed
    split at failed
    · cases failed
    · rename_i cut
      cases failed
      exact patterns _ (founded_of_splitFields cut)
  | advance? =>
    simp only [Step.run, Run.advance?] at failed
    split at failed <;> cases failed
  | _ => cases failed

private theorem haltsBy_advance : Run.advance.HaltsBy ways := by
  intro m m' halt failed
  cases answer : Run.advance? m with
  | error halt₁ m₁ =>
    rw [Run.advance, bind_error answer] at failed
    cases failed
    exact haltsBy_step patterns aborts .advance? m m' halt answer
  | ok outcome m₁ =>
    rw [Run.advance, bind_ok answer] at failed
    cases outcome with
    | ok more => cases failed
    | error f =>
      cases failed
      simp only [Run.advance?] at answer
      split at answer
      · cases answer
      · cases answer
      · rename_i delivered
        cases answer
        exact patterns f (Records.founded_of_advance delivered)

variable (failures : ∀ cause l, ways (.fault (.failure cause l)))
include failures

private theorem haltsBy_stepwise : Stepwise .any fun x _ => x.HaltsBy ways where
  reads _ _ := trivial
  pure _ := by rintro m m' halt ⟨⟩
  bind := .bind
  withFrame frame _ _ h := h.withFrame frame
  step s _ := haltsBy_step patterns aborts s
  fail cause l _ := by
    rintro m m' halt ⟨⟩
    exact failures cause l
  advance _ := haltsBy_advance patterns aborts

/-- Whatever parts are put together, they halt by what makes the parts halt, for a cause of the run,
for the sake of a text that is no pattern, or because they are aborted. -/
theorem haltsBy_compositional : Compositional .any fun x _ => x.HaltsBy ways :=
  (haltsBy_stepwise patterns aborts failures).compositional

end Ways

end Run

def RunHalt.Founded : RunHalt → Prop
  | .fault (.pattern f) => f.Founded
  | _ => True

namespace Program

private theorem founded_run (p : Program) (fuel : Nat) : (p.run fuel).HaltsBy RunHalt.Founded := by
  have c : Compositional .any fun x _ => x.HaltsBy RunHalt.Founded :=
    Run.haltsBy_compositional (fun _ founded => founded) trivial fun _ _ => trivial
  refine c.runs ?_ (fun _ _ => trivial) (p.asks_of_full Licence.full_any) fuel
  rintro α m m' halt ⟨⟩
  trivial

private theorem aborted_run {p : Program} {fuel : Nat} {start m : Machine}
    (aborted : p.run fuel start = .error .aborted m) :
    ∃ t, Trace (fun _ => True) (p.run fuel) start t ∧
      ∃ m' fmt args, (m', .format fmt args) ∈ t ∧ Printf.Overlong fmt ∧
        Printf.sprintf fmt args = none := by
  obtain ⟨t, trace⟩ := (p.composed_run fuel).trace start
  exact ⟨t, trace, exists_aborts_iff.mp (trace.aborted_iff.mp ⟨m, aborted⟩)⟩

omit [Platform] in
private theorem ofSource_refuses (source : String) :
    (∃ p, ofSource source = .ok p) ∨
      ∃ fault message, ∃ l : Location, ofSource source = .error (.fault fault) ∧
        l.Inside source.toList ∧
        (fault.report = .lexer message l ∨ fault.report = .parser message l) := by
  unfold ofSource
  cases lexed : Token.tokenize source with
  | error f =>
    exact .inr ⟨.lex f, f.cause.message, f.location, rfl, Token.inside_of_fault lexed, .inl rfl⟩
  | ok tokens =>
    have self : tokens.map (·.kind) = tokens.map (·.kind) := rfl
    rcases ofTokens_alike self with ⟨p, -, parsed, -⟩ | ⟨f, -, refused, -, -, mem⟩
    · exact .inl ⟨p, by simp only [parsed]⟩
    · refine .inr ⟨.parse f, f.message, f.location, by simp only [refused], ?_, .inr rfl⟩
      exact Token.inside_of_mem lexed mem

/-- Each stage fails only in its own way.  Every text is a script, or it is refused with a
diagnostic of the lexer or of the parser that has a place in the text and is not one of a run.  And
every run of every script, from whatever state, ends with a status, or needs more fuel, or ends with
a diagnostic of a run: a cause without a place, a cause with one, or the reason why some text is
no pattern.  Where it is aborted there is no diagnostic: then it took a step that had to lay out a
number with too many places. -/
theorem stages_fail_apart :
    (∀ source, (∃ p, ofSource source = .ok p) ∨
      ∃ fault, ofSource source = .error (.fault fault) ∧ fault.report.isRuntime = false ∧
        ∃ message, ∃ l : Location, l.Inside source.toList ∧ fault.report.location? = some l ∧
          (fault.report = .lexer message l ∨ fault.report = .parser message l)) ∧
    ∀ (p : Program) (fuel : Nat) (start : Machine),
      (∃ status m, p.run fuel start = .ok status m) ∨
      (∃ m, p.run fuel start = .error .outOfFuel m) ∨
      (∃ m, p.run fuel start = .error .aborted m ∧
        ∃ t, Trace (fun _ => True) (p.run fuel) start t ∧
          ∃ m' fmt args, (m', .format fmt args) ∈ t ∧ Printf.Overlong fmt ∧
            Printf.sprintf fmt args = none) ∨
      ∃ fault m, p.run fuel start = .error (.fault fault) m ∧ fault.report.isRuntime = true ∧
        ((∃ message, fault.report = .runtime message) ∨
          (∃ message l, fault.report = .runtimeAt message l) ∨
          ∃ text f, Platform.compile text = .error f ∧ fault.report = .pattern f.message) := by
  refine ⟨fun source => ?_, fun p fuel start => ?_⟩
  · obtain accepted | ⟨fault, message, l, refused, inside, stage⟩ := ofSource_refuses source
    · exact .inl accepted
    · refine .inr ⟨fault, refused, ?_, message, l, inside, ?_, stage⟩
      · rcases stage with lexer | parser
        · rw [lexer, Report.isRuntime]
        · rw [parser, Report.isRuntime]
      · rcases stage with lexer | parser
        · rw [lexer, Report.location?]
        · rw [parser, Report.location?]
  · match outcome : p.run fuel start with
    | .ok status m => exact .inl ⟨status, m, rfl⟩
    | .error .outOfFuel m => exact .inr (.inl ⟨m, rfl⟩)
    | .error .aborted m => exact .inr (.inr (.inl ⟨m, rfl, aborted_run outcome⟩))
    | .error (.fault fault) m =>
      refine .inr (.inr (.inr ⟨fault, m, rfl, fault.isRuntime_report, ?_⟩))
      match fault with
      | .failure cause none => exact .inl ⟨cause.message, rfl⟩
      | .failure cause (some l) => exact .inr (.inl ⟨cause.message, l, rfl⟩)
      | .pattern f =>
        obtain ⟨text, compiled⟩ := p.founded_run fuel start m _ outcome
        exact .inr (.inr ⟨text, f, compiled, rfl⟩)

end Program

end PatternAction
