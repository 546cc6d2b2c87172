import PatternAction.Proofs.Record.Fields
import PatternAction.Proofs.Record.Published
import PatternAction.Proofs.Run.Named
import PatternAction.Proofs.Run.Trace
import PatternAction.Standard

/-!
Fields always show the current record.  In the run of a script that assigns to no field, the fields
are bound and unbound by the delivery of records alone: every other step leaves them as they are,
and a delivery puts the fields of its line in place of those of the record before.  So at every
point the line and the fields bound are those of the delivery made last, cut by the separator that
was in force then.
-/

set_option autoImplicit false
set_option relaxedAutoImplicit false

namespace PatternAction

/-- A line, and the separator that was in force when it was delivered. -/
structure Delivery where
  line : String
  separator : String
deriving DecidableEq, Repr

section AnyPlatform

variable [Platform]

def delivered? : Event → Option Delivery
  | (m, .advance?) =>
    match m.records.advance m.globals m.cache, m.records.lines[m.records.position]? with
    | .ok (some _), some line => some ⟨line, (m.globals.scalar "FS").text⟩
    | _, _ => none
  | _ => none

def lastDelivery? (past : List Event) : Option Delivery :=
  (past.filterMap delivered?).getLast?

private theorem lastDelivery?_concat (past : List Event) (e : Event) :
    lastDelivery? (past ++ [e]) = (delivered? e).or (lastDelivery? past) := by
  rw [lastDelivery?, List.filterMap_append]
  cases h : delivered? e with
  | none => simp [lastDelivery?, h]
  | some d => simp [h]

/-- The record bound is the line delivered, and the fields bound are exactly its fields. -/
def Machine.Shows (m : Machine) (d : Delivery) : Prop :=
  m.globals.get? "$0" = some (.scalar ⟨d.line⟩) ∧
    ∃ fields, fieldsOf d.line.toList d.separator = .ok fields ∧
      ∀ k, m.globals.get? (fieldName (k + 1)) = fields[k]?.map fun f => .scalar (.ofChars f)

/-- A step that writes no field, apart from the delivery of a record. -/
def Step.sparesFields : Step → Prop
  | .store name _ | .remove name => hasFieldSign name = false
  | .setGlobal _ _ => False
  | _ => True

/-! ## Steps that deliver nothing -/

structure Machine.SameFields (m m' : Machine) : Prop where
  count : m'.records.fields = m.records.fields
  bound : ∀ k, m'.globals.get? (fieldName k) = m.globals.get? (fieldName k)

omit [Platform] in
private theorem Machine.SameFields.refl (m : Machine) : m.SameFields m :=
  ⟨rfl, fun _ => rfl⟩

omit [Platform] in
private theorem Machine.sameFields_mapScopeOf {m : Machine} {name : String} {f : Scope → Scope}
    (h : ∀ (scope : Scope) k, (f scope).get? (fieldName k) = scope.get? (fieldName k)) :
    m.SameFields (m.mapScopeOf name f) := by
  unfold Machine.mapScopeOf
  split
  · exact ⟨rfl, fun k => h _ k⟩
  · split
    · exact ⟨rfl, fun k => h _ k⟩
    · exact ⟨rfl, fun _ => rfl⟩

private theorem Step.sameFields_run {s : Step} (h : s.sparesFields) {m : Machine}
    (quiet : delivered? (m, s) = none) : m.SameFields (Run.stateOf (s.run m)) := by
  have only := s.exists_cache_of_answers m
  cases s with
  | store name value =>
    change m.SameFields (m.mapScopeOf name (·.insert name value))
    refine Machine.sameFields_mapScopeOf fun scope k => ?_
    rw [Scope.get?_insert, if_neg (ne_fieldName h k)]
  | remove name =>
    change m.SameFields (m.mapScopeOf name (·.erase name))
    refine Machine.sameFields_mapScopeOf fun scope k => ?_
    rw [Scope.get?_erase, if_neg (ne_fieldName h k)]
  | setGlobal name value => exact h.elim
  | lookup | global | exitStatus? | pattern | format | fields | recordCount =>
    obtain ⟨cache, same⟩ := only rfl
    rw [same]
    exact ⟨rfl, fun _ => rfl⟩
  | advance? =>
    simp only [Step.run, Run.advance?]
    split
    · rename_i records globals cache next
      obtain ⟨line, fields, found, -⟩ := Records.advance_eq_some next
      simp [delivered?, next, found] at quiet
    · exact .refl m
    · exact .refl m
  | emit | requestExit | takeExit | resetRecords | skipRecords => exact ⟨rfl, fun _ => rfl⟩

theorem Step.sound_run (s : Step) {m : Machine} (sound : m.cache.Sound) :
    (Run.stateOf (s.run m)).cache.Sound := by
  cases s with
  | pattern text =>
    simp only [Step.run, Run.pattern]
    split
    · rename_i p cache compiled
      exact (sound.compile compiled).2
    · exact sound
  | format fmt args =>
    simp only [Step.run, Run.format]
    split <;> exact sound
  | fields text separator =>
    simp only [Step.run, Run.fields]
    split
    · rename_i fs cache cut
      exact (splitFields_sound sound cut).2
    · exact sound
  | advance? =>
    simp only [Step.run, Run.advance?]
    split
    · rename_i records globals cache next
      obtain ⟨line, fields, -, cut, -⟩ := Records.advance_eq_some next
      exact (splitFields_sound sound cut).2
    · exact sound
    · exact sound
  | store name value => exact (m.cache_mapScopeOf name (·.insert name value)).symm ▸ sound
  | remove name => exact (m.cache_mapScopeOf name (·.erase name)).symm ▸ sound
  | lookup | global | exitStatus? | recordCount | emit | requestExit | takeExit
  | resetRecords | skipRecords | setGlobal => exact sound

/-! ## Deliveries -/

/-- What the fields are at a point of a run: none before the first delivery, those of the last one
after it, and as many as the records have counted. -/
structure InStep (past : List Event) (m : Machine) : Prop where
  sound : m.cache.Sound
  before : lastDelivery? past = none →
    m.records.fields = 0 ∧ ∀ k, m.globals.get? (fieldName k) = none
  after : ∀ d, lastDelivery? past = some d → m.globals.get? "$0" = some (.scalar ⟨d.line⟩) ∧
    ∃ fields, fieldsOf d.line.toList d.separator = .ok fields ∧ m.records.fields = fields.length ∧
      ∀ k, m.globals.get? (fieldName (k + 1)) = fields[k]?.map fun f => .scalar (.ofChars f)

variable {past : List Event} {m : Machine}

private theorem InStep.tidy (h : InStep past m) {k : Nat} (beyond : m.records.fields ≤ k) :
    m.globals.get? (fieldName (k + 1)) = none := by
  cases last : lastDelivery? past with
  | none => exact (h.before last).2 (k + 1)
  | some d =>
    obtain ⟨-, fields, -, count, bound⟩ := h.after d last
    rw [bound, List.getElem?_eq_none (by omega)]
    rfl

private theorem InStep.shows (h : InStep past m) {d : Delivery}
    (last : lastDelivery? past = some d) :
    m.Shows d := by
  obtain ⟨record, fields, cut, -, bound⟩ := h.after d last
  exact ⟨record, fields, cut, bound⟩

private theorem InStep.deliver (h : InStep past m) {d : Delivery}
    (delivery : delivered? (m, .advance?) = some d) :
    InStep (past ++ [(m, .advance?)]) (Run.stateOf (Step.run .advance? m)) := by
  have last : lastDelivery? (past ++ [(m, .advance?)]) = some d := by
    rw [lastDelivery?_concat, delivery]
    rfl
  refine ⟨Step.sound_run .advance? h.sound, fun none => ?_, fun d' some => ?_⟩
  · rw [last] at none
    cases none
  · obtain rfl : d = d' := Option.some.inj (last.symm.trans some)
    simp only [delivered?] at delivery
    split at delivery
    · rename_i result line next found
      obtain ⟨records, globals, cache⟩ := result
      obtain rfl := Option.some.inj delivery
      obtain ⟨line', fields, found', cut, rfl, rfl⟩ := Records.advance_eq_some next
      obtain rfl : line = line' := Option.some.inj (found.symm.trans found')
      have outcome : Run.stateOf (Step.run .advance? m) = { m with
          records := ⟨m.records.lines, m.records.position + 1, m.records.nr + 1,
            m.records.fnr + 1, fields.length⟩
          globals := Records.publish m.globals line fields m.records.fields (m.records.nr + 1)
            (m.records.fnr + 1)
          cache := cache } := by
        simp only [Step.run, Run.advance?, next, Run.stateOf]
      rw [outcome]
      refine ⟨Records.get?_publish_record .., fields, (splitFields_sound h.sound cut).1, rfl, ?_⟩
      intro k
      rw [Records.get?_publish_fieldName, if_neg (Nat.succ_ne_zero k), Nat.add_sub_cancel]
      by_cases own : k + 1 ≤ fields.length
      · rw [if_pos own]
      · rw [if_neg own, List.getElem?_eq_none (by omega)]
        split
        · rfl
        · exact h.tidy (by omega)
    · cases delivery

private theorem InStep.step (h : InStep past m) {s : Step} (spares : s.sparesFields) :
    InStep (past ++ [(m, s)]) (Run.stateOf (s.run m)) := by
  cases delivery : delivered? (m, s) with
  | some d =>
    cases s with
    | advance? => exact h.deliver delivery
    | _ => cases delivery
  | none =>
    have same := Step.sameFields_run spares delivery
    have last : lastDelivery? (past ++ [(m, s)]) = lastDelivery? past := by
      rw [lastDelivery?_concat, delivery]
      rfl
    refine ⟨s.sound_run h.sound, fun none => ?_, fun d some => ?_⟩
    · obtain ⟨count, bound⟩ := h.before (last ▸ none)
      exact ⟨same.count.trans count, fun k => (same.bound k).trans (bound k)⟩
    · obtain ⟨record, fields, cut, count, bound⟩ := h.after d (last ▸ some)
      exact ⟨(same.bound 0).trans record, fields, cut, same.count.trans count,
        fun k => (same.bound (k + 1)).trans (bound k)⟩

private theorem InStep.withFrames (h : InStep past m) (fs : List Scope) :
    InStep past { m with frames := fs } :=
  ⟨h.sound, h.before, h.after⟩

/-! ## The start of a run -/

omit [Platform] in
private theorem get?_standardGlobals {name : String} (h : hasFieldSign name = true) :
    Machine.standardGlobals.get? name = none := by
  have other {known : String} (plain : hasFieldSign known = false) : known ≠ name := by
    rintro rfl
    rw [h] at plain
    cases plain
  simp only [Machine.standardGlobals, List.foldl_cons, List.foldl_nil, Scope.get?_setScalar]
  iterate 8 rw [if_neg (other (by decide))]
  simp [Scope.get?, Scope.empty]

namespace Machine

omit [Platform]

private theorem get?_setGlobal {name known : String} (h : hasFieldSign name = true)
    (plain : hasFieldSign known = false) (m : Machine) (text : String) :
    (m.setGlobal known text).globals.get? name = m.globals.get? name := by
  change (m.globals.setScalar known ⟨text⟩).get? name = _
  rw [Scope.get?_setScalar, if_neg]
  rintro rfl
  rw [h] at plain
  cases plain

private theorem get?_setGlobal? {name known : String} (h : hasFieldSign name = true)
    (plain : hasFieldSign known = false) (m : Machine) (text? : Option String) :
    (m.setGlobal? known text?).globals.get? name = m.globals.get? name := by
  cases text? with
  | none => rfl
  | some text => exact get?_setGlobal h plain m text

private theorem get?_setGlobals {name : String} (h : hasFieldSign name = true)
    {assignments : List (String × String)} (plain : ∀ a ∈ assignments, hasFieldSign a.1 = false)
    (m : Machine) :
    (assignments.foldl (fun m (name, text) => m.setGlobal name text) m).globals.get? name =
      m.globals.get? name := by
  induction assignments generalizing m with
  | nil => rfl
  | cons a assignments ih =>
    obtain ⟨first, others⟩ := List.forall_mem_cons.mp plain
    rw [List.foldl_cons, ih others, get?_setGlobal h first]

private theorem get?_setUp {name : String} (h : hasFieldSign name = true) {s : Setup}
    (plain : ∀ a ∈ s.assignments, hasFieldSign a.1 = false) (m : Machine) :
    (m.setUp s).globals.get? name = m.globals.get? name := by
  rw [setUp, get?_setGlobals h plain, get?_setGlobal? h (by decide), get?_setGlobal? h (by decide)]

theorem setUp_eq (m : Machine) (s : Setup) :
    m.setUp s = { m with globals := (m.setUp s).globals } := by
  have step (assignments : List (String × String)) (m : Machine) :
      assignments.foldl (fun m (name, text) => m.setGlobal name text) m = { m with
        globals :=
          (assignments.foldl (fun m (name, text) => m.setGlobal name text) m).globals } := by
    induction assignments generalizing m with
    | nil => rfl
    | cons a assignments ih =>
      rw [List.foldl_cons, ih]
      rfl
  rw [setUp, step]
  cases s.fileName <;> cases s.separator <;> rfl

end Machine

private theorem inStep_start (lines : List String) {s : Setup}
    (plain : ∀ a ∈ s.assignments, hasFieldSign a.1 = false) :
    InStep [] ((Machine.ofRecords (.ofLines lines)).setUp s) := by
  have unbound (k : Nat) :
      ((Machine.ofRecords (.ofLines lines)).setUp s).globals.get? (fieldName k) = none := by
    rw [Machine.get?_setUp (hasFieldSign_fieldName k) plain]
    exact get?_standardGlobals (hasFieldSign_fieldName k)
  rw [Machine.setUp_eq]
  exact ⟨Pattern.Cache.sound_empty, fun _ => ⟨rfl, unbound⟩, nofun⟩

/-! ## Runs -/

omit [Platform] in
private theorem Step.sparesFields_of_not_binds (s : Step) (h : s.binds = false) :
    s.sparesFields := by
  cases s <;> trivial

omit [Platform] in
private theorem Program.asks_sparesFields {source : String} {p : Program}
    (read : ofSource source = .ok p) (none : p.assignsField = false) : p.Asks
    (.ofSteps Step.sparesFields) := by
  obtain ⟨tokens, lexed, built⟩ := built_of_ofSource read
  have free (s : Step) (served : s.serves = true) : s.sparesFields :=
    s.sparesFields_of_not_binds (Step.serves_eq_true_iff.mp served).1
  refine built.asks free (fun name worded => ?_) none
  have plain := hasFieldSign_of_worded lexed worded
  exact ⟨fun _ => plain, fun _ => plain, plain⟩

/-- In the run of a script that assigns to no field, on any lines and whatever the separators, the
fields show the record delivered last, at every point behind the first delivery: before each of
the elementary steps that the run takes, and at its end. -/
theorem Program.fields_show_record {source : String} {p : Program}
    (read : ofSource source = .ok p) (none : p.assignsField = false) (lines : List String)
    {s : Setup} (plain : ∀ a ∈ s.assignments, hasFieldSign a.1 = false) (fuel : Nat) :
    let start := (Machine.ofRecords (.ofLines lines)).setUp s
    (∃ t, Trace Step.sparesFields (p.run fuel) start t) ∧
      ∀ t, Trace Step.sparesFields (p.run fuel) start t →
        (∀ before m step after, t = before ++ (m, step) :: after →
          ∀ d, lastDelivery? before = some d → m.Shows d) ∧
        ∀ d, lastDelivery? t = some d → (Run.stateOf (p.run fuel start)).Shows d := by
  intro start
  have asks := asks_sparesFields read none
  refine ⟨(twin_run Step.sparesFields_of_not_binds asks fuel).composed.trace start, ?_⟩
  intro t trace
  have always := trace.always (I := InStep) (fun _ _ fs h => h.withFrames fs)
    (fun _ _ _ spares h => h.step spares) (inStep_start lines plain)
  refine ⟨?_, fun d last => always.2.shows last⟩
  rintro before m step after rfl d last
  exact always.1.at_point.shows last

end AnyPlatform

/-- A script that takes a record by `getline` under one separator, changes the separator, and
assigns to the count of fields.  The line delivered last is the last one, which was cut by the
second separator; the count is what the script made of it. -/
theorem Program.fields_show_record_getline :
    let source := "BEGIN \x7b FS = \":\"; getline; NF = 9; FS = \" \" \x7d " ++
      "\x7b print $1, NF; NF = 0 \x7d"
    let setup : Setup := ⟨none, some ",", [("x", "$1")]⟩
    let start := (Machine.ofRecords (.ofLines ["a:b c", "d e"])).setUp setup
    ∃ p, ofSource source = .ok p ∧ p.assignsField = false ∧
      ∃ t, Trace Step.sparesFields (p.run 40) start t ∧
        (∀ before m step after, t = before ++ (m, step) :: after →
          ∀ d, lastDelivery? before = some d → m.Shows d) ∧
        let final := Run.stateOf (p.run 40 start)
        ∃ d, lastDelivery? t = some d ∧ d.line = "d e" ∧ final.Shows d ∧
          (["$1", "NF"].map fun name => (final.globals.scalar name).text) = ["d", "0"] ∧
          final.output = "a:b 2\nd 2\n" := by
  intro source setup start
  let seen (m : Machine) : List String × String :=
    (["$0", "$1", "NF"].map fun name => (m.globals.scalar name).text, m.output)
  have accepted : (ofSource source).toOption.map
      (fun p => (p.assignsField, seen (Run.stateOf (p.run 40 start)))) =
      some (false, ["d e", "d", "0"], "a:b 2\nd 2\n") := by
    decide +kernel
  cases read : ofSource source with
  | error halt =>
    rw [read] at accepted
    cases accepted
  | ok p =>
    rw [read] at accepted
    obtain ⟨none, after⟩ := Prod.mk.inj (Option.some.inj accepted)
    have plain : ∀ a ∈ [("x", "$1")], hasFieldSign a.1 = false := by decide
    obtain ⟨⟨t, trace⟩, all⟩ := fields_show_record read none ["a:b c", "d e"]
      (s := setup) plain 40
    obtain ⟨within, atEnd⟩ := all t trace
    have always := trace.always (I := InStep) (fun _ _ fs h => h.withFrames fs)
      (fun _ _ _ spares h => h.step spares) (inStep_start ["a:b c", "d e"] plain)
    obtain ⟨texts, output⟩ := Prod.mk.inj after
    obtain ⟨record, fields⟩ := List.cons.inj texts
    cases last : lastDelivery? t with
    | none =>
      -- Before the first delivery no record is bound.
      have unbound : (Run.stateOf (p.run 40 start)).globals.get? "$0" = Option.none :=
        (always.2.before last).2 0
      simp only [Scope.scalar, unbound] at record
      exact absurd record (by decide)
    | some d =>
      have shows : (Run.stateOf (p.run 40 start)).Shows d := atEnd d last
      refine ⟨p, rfl, none, t, trace, within, d, last, ?_, shows, fields, output⟩
      simpa only [Scope.scalar, shows.1] using record

end PatternAction
