import PatternAction.Eval
import PatternAction.Proofs.Record.Fields
import PatternAction.Proofs.Record.Published
import PatternAction.Proofs.Run.Trace
import PatternAction.Standard

/-!
A record is taken as a whole or not at all.  Where there is no line left, or the separator is no
pattern, nothing has changed: neither the bindings nor the counters nor the patterns held.  Where a
line is delivered, the names that are bound and unbound are known exactly, and so is what each of
them is bound to.
-/

set_option autoImplicit false
set_option relaxedAutoImplicit false

namespace PatternAction

section AnyPlatform

variable [Platform]

/-! ## Patterns held -/

theorem Pattern.Cache.getElem?_of_compile {c c' : Cache} {text : String} {p : Pattern}
    (h : c.compile text = .ok (p, c')) (other : String) :
    c'.entries[other]? = if text = other then some p else c.entries[other]? := by
  unfold Cache.compile at h
  split at h
  · rename_i held
    obtain ⟨rfl, rfl⟩ := Prod.mk.inj (Except.ok.inj h)
    split
    · rename_i same
      rw [← same, held]
    · rfl
  · cases compiled : Platform.compile text with
    | error f =>
      rw [compiled] at h
      cases h
    | ok q =>
      rw [compiled] at h
      obtain ⟨rfl, rfl⟩ := Prod.mk.inj (Except.ok.inj h)
      simp [Std.TreeMap.getElem?_insert]

private theorem getElem?_of_splitFields {text : List Char} {separator other : String}
    {c c' : Pattern.Cache} {fields : List (List Char)}
    (h : splitFields text separator c = .ok (fields, c')) (ne : other ≠ separator) :
    c'.entries[other]? = c.entries[other]? := by
  obtain ⟨rfl, -⟩ | ⟨p, compiled, -⟩ := splitFields_ok_cases h
  · rfl
  · rw [Pattern.Cache.getElem?_of_compile compiled, if_neg ne.symm]

/-! ## Deliveries -/

/-- From one state to the other the next line has been delivered, cut by the separator that was in
force before.  The line, its fields and the counts are bound; fields that only the record before it
had are unbound; and nothing else is touched, apart from the pattern of the separator. -/
structure Machine.Delivers (m : Machine) (line : String) (fields : List (List Char))
    (m' : Machine) : Prop where
  next : m.records.lines[m.records.position]? = some line
  cut : splitFields line.toList (m.globals.scalar "FS").text m.cache = .ok (fields, m'.cache)
  sound : m.cache.Sound → fieldsOf line.toList (m.globals.scalar "FS").text = .ok fields
  counters : m'.records = { m.records with
    position := m.records.position + 1, nr := m.records.nr + 1, fnr := m.records.fnr + 1,
    fields := fields.length }
  record : m'.globals.get? "$0" = some (.scalar ⟨line⟩)
  field : ∀ k (inside : k < fields.length),
    m'.globals.get? (fieldName (k + 1)) = some (.scalar (.ofChars fields[k]))
  nf : m'.globals.get? "NF" = some (.scalar (.ofCount fields.length))
  nr : m'.globals.get? "NR" = some (.scalar (.ofCount (m.records.nr + 1)))
  fnr : m'.globals.get? "FNR" = some (.scalar (.ofCount (m.records.fnr + 1)))
  stale : ∀ k, fields.length < k → k ≤ m.records.fields → m'.globals.get? (fieldName k) = none
  others : ∀ name, name ∉ ["NF", "NR", "FNR"] →
    (∀ k, k ≤ fields.length ∨ k ≤ m.records.fields → fieldName k ≠ name) →
    m'.globals.get? name = m.globals.get? name
  frames : m'.frames = m.frames
  exit? : m'.exit? = m.exit?
  output : m'.output = m.output
  patterns : ∀ text, text ≠ (m.globals.scalar "FS").text →
    m'.cache.entries[text]? = m.cache.entries[text]?

private theorem Machine.delivers_of_advance {m : Machine} {records : Records} {globals : Scope}
    {cache : Pattern.Cache}
    (h : m.records.advance m.globals m.cache = .ok (some (records, globals, cache))) :
    ∃ line fields, m.Delivers line fields { m with records, globals, cache } := by
  obtain ⟨line, fields, next, cut, rfl, rfl⟩ := Records.advance_eq_some h
  refine ⟨line, fields, ?_⟩
  exact {
    next, cut
    sound := fun sound => (splitFields_sound sound cut).1
    counters := rfl
    record := Records.get?_publish_record ..
    field := by
      intro k inside
      rw [Records.get?_publish_fieldName, if_neg (Nat.succ_ne_zero k),
        if_pos (Nat.succ_le_of_lt inside), Nat.add_sub_cancel, List.getElem?_eq_getElem inside,
        Option.map_some]
    nf := Records.get?_publish_nf ..
    nr := Records.get?_publish_nr ..
    fnr := Records.get?_publish_fnr ..
    stale := by
      intro k behind before
      rw [Records.get?_publish_fieldName, if_neg (by omega), if_neg (by omega), if_pos before]
    others := fun name noCount noField => Records.get?_publish_of_ne _ _ _ _ _ _ noCount noField
    frames := rfl
    exit? := rfl
    output := rfl
    patterns := fun text ne => getElem?_of_splitFields cut ne }

/-- Taking a record, case by case: there is no line left, or the next line cannot be cut, or it is
delivered. -/
theorem Run.advance?_cases (m : Machine) :
    (m.records.size ≤ m.records.position ∧ Run.advance? m = .ok (.ok false) m) ∨
    (∃ line f, m.records.lines[m.records.position]? = some line ∧
      splitFields line.toList (m.globals.scalar "FS").text m.cache = .error f ∧
      Run.advance? m = .ok (.error f) m) ∨
    ∃ line fields m', Run.advance? m = .ok (.ok true) m' ∧ m.Delivers line fields m' := by
  cases outcome : m.records.advance m.globals m.cache with
  | ok delivered =>
    cases delivered with
    | none =>
      refine .inl ⟨Records.advance_eq_none_iff.mp outcome, ?_⟩
      simp only [Run.advance?, outcome]
    | some result =>
      obtain ⟨records, globals, cache⟩ := result
      obtain ⟨line, fields, delivers⟩ := Machine.delivers_of_advance outcome
      refine .inr (.inr ⟨line, fields, _, ?_, delivers⟩)
      simp only [Run.advance?, outcome]
  | error f =>
    refine .inr (.inl ?_)
    have refused : Run.advance? m = .ok (.error f) m := by simp only [Run.advance?, outcome]
    unfold Records.advance at outcome
    split at outcome
    · cases outcome
    · rename_i line next
      refine ⟨line, f, next, ?_, refused⟩
      cases cut : splitFields line.toList (m.globals.scalar "FS").text m.cache with
      | error f' =>
        rw [cut] at outcome
        exact congrArg Except.error (Except.error.inj outcome)
      | ok result =>
        rw [cut] at outcome
        cases outcome

/-! ## Getline -/

omit [Platform] in
private theorem Builtin.ofName?_getline : ofName? "getline" = some .getline := by
  decide

private theorem Program.eval_getline {p : Program} {fuel : Nat} {args : List Expr} {l : Location}
    {m m' : Machine} {s : Scalar}
    (h : p.eval fuel (.call "getline" args l) m = .ok (.scalar s) m') :
    Builtin.takeRecord m = .ok s m' := by
  cases fuel with
  | zero => cases h
  | succ fuel =>
    cases args with
    | nil =>
      simp only [Program.eval, Eval.expression, Eval.call, Builtin.ofName?_getline] at h
      obtain ⟨result, m₁, taken, rest⟩ := Run.ok_of_bind h
      cases rest
      obtain ⟨values, m₂, evaluated, rest⟩ := Run.ok_of_bind taken
      cases evaluated
      obtain ⟨⟨answer, back⟩, m₃, applied, rest⟩ := Run.ok_of_bind rest
      cases rest
      obtain ⟨answer, m₄, took, rest⟩ := Run.ok_of_bind applied
      cases rest
      exact took
    | cons e es =>
      simp only [Program.eval, Eval.expression, Eval.call, Builtin.ofName?_getline] at h
      obtain ⟨result, m₁, taken, -⟩ := Run.ok_of_bind h
      cases taken

/-- A record is taken as a whole or not at all.  If the next line is delivered, the state is changed
as its delivery says; if there is none, or it cannot be cut, the state is as it was.  The same holds
of `getline`, which answers one, zero or minus one: unless it answers one, it has changed
nothing. -/
theorem Run.record_whole_or_nothing (m : Machine) :
    (match Run.advance m with
      | .ok true m' => ∃ line fields, m.Delivers line fields m'
      | .ok false m' => m' = m ∧ m.records.size ≤ m.records.position
      | .error halt m' => m' = m ∧ ∃ line f, halt = .fault (.pattern f) ∧
          m.records.lines[m.records.position]? = some line ∧
          splitFields line.toList (m.globals.scalar "FS").text m.cache = .error f) ∧
    ∀ (p : Program) (fuel : Nat) (args : List Expr) (l : Location) (s : Scalar) (m' : Machine),
      p.eval fuel (.call "getline" args l) m = .ok (.scalar s) m' →
        (s = ⟨"1"⟩ ∧ ∃ line fields, m.Delivers line fields m') ∨
          ((s = ⟨"0"⟩ ∨ s = ⟨"-1"⟩) ∧ m' = m) := by
  obtain ⟨usedUp, none⟩ | ⟨line, f, next, uncut, refused⟩ | ⟨line, fields, m₁, taken, delivers⟩ :=
    Run.advance?_cases m
  · have outcome : Run.advance m = .ok false m := Run.bind_ok none
    refine ⟨by rw [outcome]; exact ⟨rfl, usedUp⟩, fun p fuel args l s m' called => ?_⟩
    have took := (Program.eval_getline called).symm.trans (Run.bind_ok none)
    cases took
    exact .inr ⟨.inl rfl, rfl⟩
  · have outcome : Run.advance m = .error (.fault (.pattern f)) m := Run.bind_ok refused
    refine ⟨by rw [outcome]; exact ⟨rfl, line, f, rfl, next, uncut⟩,
      fun p fuel args l s m' called => ?_⟩
    have took := (Program.eval_getline called).symm.trans (Run.bind_ok refused)
    cases took
    exact .inr ⟨.inr rfl, rfl⟩
  · have outcome : Run.advance m = .ok true m₁ := Run.bind_ok taken
    refine ⟨by rw [outcome]; exact ⟨line, fields, delivers⟩, fun p fuel args l s m' called => ?_⟩
    have took := (Program.eval_getline called).symm.trans (Run.bind_ok taken)
    cases took
    exact .inl ⟨rfl, line, fields, delivers⟩

end AnyPlatform

/-- A line that cannot be cut, because the separator is no pattern. -/
theorem Run.record_whole_or_nothing_refused :
    let m := (Machine.ofRecords (.ofLines ["a((b"])).setGlobal "FS" "(("
    ∃ m', Program.empty.eval 1 (.call "getline" [] .start) m = .ok (.scalar ⟨"-1"⟩) m' ∧
      m' = m := by
  intro m
  have answer : Run.answer? (Eval.scalar (Program.empty.eval 1) (.call "getline" [] .start) m) =
      some ⟨"-1"⟩ := by decide +kernel
  obtain ⟨v, m', called, shaped⟩ := Run.ok_of_bind (Run.eq_ok_of_answer? answer)
  cases v with
  | array t => cases shaped
  | scalar s =>
    obtain rfl : s = ⟨"-1"⟩ := by
      injection shaped
    obtain ⟨one, -⟩ | ⟨-, same⟩ := (record_whole_or_nothing m).2 _ _ _ _ _ _ called
    · exact absurd one (by decide)
    · exact ⟨m', called, same⟩

end PatternAction
