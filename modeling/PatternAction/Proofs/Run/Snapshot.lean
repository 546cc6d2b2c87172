import PatternAction.Proofs.Run.Arrays
import PatternAction.Proofs.Run.Loops
import PatternAction.Standard

/-!
What a loop over an array visits.  The keys are taken once, and then each has its turn, in which the
array is looked up anew by its name.  The turns of a loop are a list: they can be read off in one
way, nothing but the states in which the body is entered matters to the loop, and no assumption is
made on what the body does to the array, to the variable or to the meaning of their names.
-/

set_option autoImplicit false
set_option relaxedAutoImplicit false

namespace PatternAction

/-! ## Turns -/

/-- One turn of a loop over an array: its key, the state that it finds, and the state in which the
body is entered, if it is. -/
structure Turn where
  key : String
  found : Machine
  entry? : Option Machine

namespace Eval

private theorem element?_eq (array key : String) (m : Machine) :
    element? array key m = .ok (m.tableAt array)[key]? m := by
  have looked : Run.lookup array m = .ok (m.lookup array) m := rfl
  have missing : (∅ : Table)[key]? = none := Std.TreeMap.getElem?_emptyc
  rw [element?, Run.bind_ok looked, Machine.tableAt]
  cases m.lookup array with
  | none => exact congrArg (EStateM.Result.ok · m) missing.symm
  | some value =>
    cases value with
    | scalar s => exact congrArg (EStateM.Result.ok · m) missing.symm
    | array t => rfl

section Turns

variable (name array : String) (body : Run Flow)

/-- The turns that a loop takes over keys, from one state on, and how it ends. -/
inductive Turns :
    List String → Machine → List Turn → EStateM.Result RunHalt Machine Flow → Prop
  | done (m : Machine) : Turns [] m [] (.ok .next m)
  | pending {key : String} {keys : List String} {m : Machine} :
      m.exit?.isSome = true → Turns (key :: keys) m [] (.ok .next m)
  | gone {key : String} {keys : List String} {m : Machine} {log : List Turn}
      {r : EStateM.Result RunHalt Machine Flow} :
      m.exit? = none → (m.tableAt array)[key]? = none → Turns keys m log r →
      Turns (key :: keys) m (⟨key, m, none⟩ :: log) r
  | failed {key : String} {keys : List String} {m n n' : Machine} {halt : RunHalt} :
      EntersTurn name array key m n → body n = .error halt n' →
      Turns (key :: keys) m [⟨key, m, some n⟩] (.error halt n')
  | left {key : String} {keys : List String} {m n n' : Machine} {flow : Flow} :
      EntersTurn name array key m n → body n = .ok flow n' → flow.goesOn = false →
      Turns (key :: keys) m [⟨key, m, some n⟩] (.ok flow.behindLoop n')
  | taken {key : String} {keys : List String} {m n n' : Machine} {flow : Flow} {log : List Turn}
      {r : EStateM.Result RunHalt Machine Flow} :
      EntersTurn name array key m n → body n = .ok flow n' → flow.goesOn = true →
      Turns keys n' log r → Turns (key :: keys) m (⟨key, m, some n⟩ :: log) r

variable {name array body} {keys : List String} {m : Machine} {log : List Turn}
  {r : EStateM.Result RunHalt Machine Flow}

private theorem entersTurn_iff {key : String} {n : Machine} : EntersTurn name array key m n ↔
    m.exit? = none ∧ ∃ value, (m.tableAt array)[key]? = some value ∧
      n = m.mapScopeOf name (·.insert name (.scalar value)) := by
  simp only [EntersTurn, element?_eq, EStateM.Result.ok.injEq, and_true]

private theorem EntersTurn.not_pending {key : String} {n : Machine}
    (h : EntersTurn name array key m n) :
    ¬ m.exit?.isSome = true := by
  rw [h.1]
  exact Bool.false_ne_true

private theorem EntersTurn.not_gone {key : String} {n : Machine}
    (h : EntersTurn name array key m n) :
    (m.tableAt array)[key]? ≠ none := by
  obtain ⟨-, value, held, -⟩ := entersTurn_iff.mp h
  rw [held]
  exact Option.some_ne_none value

private theorem EntersTurn.unique {key : String} {n n' : Machine}
    (h : EntersTurn name array key m n) (h' : EntersTurn name array key m n') : n = n' := by
  obtain ⟨-, value, held, rfl⟩ := entersTurn_iff.mp h
  obtain ⟨-, value', held', rfl⟩ := entersTurn_iff.mp h'
  rw [Option.some.inj (held.symm.trans held')]

private theorem EntersTurn.lookup {key : String} {n : Machine} (h : EntersTurn name array key m n) :
    ∃ value, (m.tableAt array)[key]? = some value ∧
      n = m.mapScopeOf name (·.insert name (.scalar value)) ∧
      n.lookup name = some (.scalar value) := by
  obtain ⟨-, value, held, same⟩ := entersTurn_iff.mp h
  refine ⟨value, held, same, ?_⟩
  rw [same, Machine.lookup_store, if_pos rfl]

private theorem Turns.forEach_eq (h : Turns name array body keys m log r) :
    forEach name array body keys m = r := by
  induction h with
  | done m => rfl
  | pending exits => exact forEach_of_pending exits _
  | @gone key keys m log r running missing _ ih =>
    have absent : element? array key m = .ok none m := by rw [element?_eq, missing]
    exact (forEach_of_turn (.gone running absent)).trans ih
  | failed enters fails => rw [forEach_of_entersTurn enters, Run.bind_error fails]
  | @left key keys m n n' flow enters ran off =>
    rw [forEach_of_entersTurn enters, Run.bind_ok ran]
    cases flow with
    | next | «continue» => cases off
    | «break» | «return» => rfl
  | taken enters ran on _ ih => exact (forEach_of_turn (.taken enters ran on)).trans ih

private theorem exists_turns (name array : String) (body : Run Flow) (keys : List String)
    (m : Machine) :
    ∃ log, Turns name array body keys m log (forEach name array body keys m) := by
  suffices ∃ log r, Turns name array body keys m log r by
    obtain ⟨log, r, turns⟩ := this
    exact ⟨log, turns.forEach_eq ▸ turns⟩
  induction keys generalizing m with
  | nil => exact ⟨[], _, .done m⟩
  | cons key keys ih =>
    cases running : m.exit? with
    | some status => exact ⟨[], _, .pending (by rw [running]; rfl)⟩
    | none =>
      cases held : (m.tableAt array)[key]? with
      | none =>
        obtain ⟨log, r, rest⟩ := ih m
        exact ⟨_, r, .gone running held rest⟩
      | some value =>
        obtain ⟨n, enters⟩ : ∃ n, EntersTurn name array key m n :=
          ⟨_, entersTurn_iff.mpr ⟨running, value, held, rfl⟩⟩
        cases ran : body n with
        | error halt n' => exact ⟨_, _, .failed enters ran⟩
        | ok flow n' =>
          cases on : flow.goesOn with
          | false => exact ⟨_, _, .left enters ran on⟩
          | true =>
            obtain ⟨log, r, rest⟩ := ih n'
            exact ⟨_, r, .taken enters ran on rest⟩

private theorem Turns.unique {log' : List Turn} {r' : EStateM.Result RunHalt Machine Flow}
    (h : Turns name array body keys m log r) (h' : Turns name array body keys m log' r') :
    log = log' := by
  induction h generalizing log' r' with
  | done m =>
    cases h'
    rfl
  | pending exits =>
    cases h' with
    | pending => rfl
    | gone running =>
      rw [running] at exits
      cases exits
    | failed enters | left enters | taken enters => exact absurd exits enters.not_pending
  | gone running missing _ ih =>
    cases h' with
    | pending exits =>
      rw [running] at exits
      cases exits
    | gone _ _ rest => rw [ih rest]
    | failed enters | left enters | taken enters => exact absurd missing enters.not_gone
  | failed enters fails =>
    cases h' with
    | pending exits => exact absurd exits enters.not_pending
    | gone _ missing => exact absurd missing enters.not_gone
    | failed enters' | left enters' => rw [enters.unique enters']
    | taken enters' ran =>
      rw [← enters.unique enters', fails] at ran
      cases ran
  | left enters ran off =>
    cases h' with
    | pending exits => exact absurd exits enters.not_pending
    | gone _ missing => exact absurd missing enters.not_gone
    | failed enters' | left enters' => rw [enters.unique enters']
    | taken enters' ran' on =>
      rw [← enters.unique enters', ran] at ran'
      cases ran'
      rw [off] at on
      cases on
  | taken enters ran on _ ih =>
    cases h' with
    | pending exits => exact absurd exits enters.not_pending
    | gone _ missing => exact absurd missing enters.not_gone
    | failed enters' fails =>
      rw [← enters.unique enters', ran] at fails
      cases fails
    | left enters' ran' off =>
      rw [← enters.unique enters', ran] at ran'
      cases ran'
      rw [on] at off
      cases off
    | taken enters' ran' _ rest =>
      rw [← enters.unique enters', ran] at ran'
      cases ran'
      rw [enters.unique enters', ih rest]

private theorem Turns.congr {body' : Run Flow} (h : Turns name array body keys m log r)
    (same : ∀ turn ∈ log, ∀ n, turn.entry? = some n → body' n = body n) :
    Turns name array body' keys m log r := by
  induction h with
  | done m => exact .done m
  | pending exits => exact .pending exits
  | gone running missing _ ih =>
    exact .gone running missing (ih fun turn mem => same turn (List.mem_cons_of_mem _ mem))
  | failed enters fails =>
    exact .failed enters ((same _ List.mem_cons_self _ rfl).trans fails)
  | left enters ran off =>
    exact .left enters ((same _ List.mem_cons_self _ rfl).trans ran) off
  | taken enters ran on _ ih =>
    exact .taken enters ((same _ List.mem_cons_self _ rfl).trans ran) on
      (ih fun turn mem => same turn (List.mem_cons_of_mem _ mem))

private theorem Turns.keys_prefix (h : Turns name array body keys m log r) :
    log.map Turn.key <+: keys := by
  induction h with
  | done | pending => exact List.nil_prefix
  | gone _ _ _ ih | taken _ _ _ _ ih => exact (List.prefix_cons_inj _).mpr ih
  | failed | left => exact (List.prefix_cons_inj _).mpr List.nil_prefix

private theorem Turns.of_mem (h : Turns name array body keys m log r) {turn : Turn}
    (mem : turn ∈ log) :
    (∃ n, turn.entry? = some n ∧ EntersTurn name array turn.key turn.found n) ∨
      turn.entry? = none ∧ (turn.found.tableAt array)[turn.key]? = none := by
  induction h with
  | done | pending => cases mem
  | gone _ missing _ ih =>
    rcases List.mem_cons.mp mem with rfl | mem
    · exact .inr ⟨rfl, missing⟩
    · exact ih mem
  | failed enters | left enters =>
    obtain rfl := List.mem_singleton.mp mem
    exact .inl ⟨_, rfl, enters⟩
  | taken enters _ _ _ ih =>
    rcases List.mem_cons.mp mem with rfl | mem
    · exact .inl ⟨_, rfl, enters⟩
    · exact ih mem

private theorem Turns.keys_eq (h : Turns name array body keys m log r) (running : m.exit? = none)
    (stays : ∀ turn ∈ log, ∀ n, turn.entry? = some n →
      ∃ flow n', body n = .ok flow n' ∧ flow.goesOn = true ∧ n'.exit? = none) :
    log.map Turn.key = keys := by
  induction h with
  | done => rfl
  | pending exits =>
    rw [running] at exits
    cases exits
  | gone _ _ _ ih =>
    exact congrArg (_ :: ·) (ih running fun turn mem => stays turn (List.mem_cons_of_mem _ mem))
  | failed _ fails =>
    obtain ⟨flow, n', ran, -⟩ := stays _ List.mem_cons_self _ rfl
    cases fails.symm.trans ran
  | left _ ran off =>
    obtain ⟨flow, n', ran', on, -⟩ := stays _ List.mem_cons_self _ rfl
    cases ran.symm.trans ran'
    rw [off] at on
    cases on
  | taken _ ran _ _ ih =>
    obtain ⟨flow, n', ran', -, still⟩ := stays _ List.mem_cons_self _ rfl
    cases ran.symm.trans ran'
    exact congrArg (_ :: ·) (ih still fun turn mem => stays turn (List.mem_cons_of_mem _ mem))

end Turns

/-! ## The snapshot -/

/-- What a loop over an array, whose keys are given in some order, visits. -/
structure Visits (name array : String) (body : Run Flow) (t : Table) (keys : List String)
    (m : Machine) (log : List Turn) : Prop where
  /-- These are the turns of the loop, and no others are. -/
  turns : Turns name array body keys m log (forEach name array body keys m)
  unique : ∀ log' r, Turns name array body keys m log' r → log' = log
  /-- What the body does elsewhere does not matter. -/
  entries : ∀ body', (∀ turn ∈ log, ∀ n, turn.entry? = some n → body' n = body n) →
    forEach name array body' keys m = forEach name array body keys m
  /-- No key has two turns, and only keys of the array at the start have one. -/
  once : (log.map Turn.key).Nodup
  inSnapshot : ∀ turn ∈ log, turn.key ∈ t
  /-- The body is entered for the keys that are there when their turn comes. -/
  entered_iff : ∀ turn ∈ log, turn.entry?.isSome = true ↔ turn.key ∈ turn.found.tableAt array
  /-- The variable is bound to the element that is there. -/
  bound : ∀ turn ∈ log, ∀ n, turn.entry? = some n →
    ∃ value, (turn.found.tableAt array)[turn.key]? = some value ∧
      n = turn.found.mapScopeOf name (·.insert name (.scalar value)) ∧
      n.lookup name = some (.scalar value)
  /-- A loop that is not left comes to all keys. -/
  complete : m.exit? = none →
    (∀ turn ∈ log, ∀ n, turn.entry? = some n →
      ∃ flow n', body n = .ok flow n' ∧ flow.goesOn = true ∧ n'.exit? = none) →
    log.map Turn.key = keys

variable [Platform]

/-- A loop over an array visits a snapshot of its keys, in whatever order they are given and
whatever its body does; the order of a platform is one of them. -/
theorem forIn_visits_snapshot {array : String} {m : Machine} {t : Table}
    (bound : m.lookup array = some (.array t)) (name : String) :
    (∀ rounds eval exec block l, statement rounds eval exec (.forIn name array block l) m =
      forEach name array (sequence exec block.statements) (Platform.keys t) m) ∧
    (Platform.keys t).Perm t.keys ∧
    ∀ keys : List String, keys.Perm t.keys → ∀ body : Run Flow,
      ∃ log, Visits name array body t keys m log := by
  refine ⟨fun rounds eval exec block l => ?_, Platform.keys_perm t, fun keys order body => ?_⟩
  · have looked : Run.lookup array m = .ok (some (.array t)) m :=
      congrArg (EStateM.Result.ok · m) bound
    have listed : keysOf array l m = .ok (Platform.keys t) m := Run.bind_ok looked
    exact Run.bind_ok listed
  · obtain ⟨log, turns⟩ := exists_turns name array body keys m
    refine ⟨log, turns, fun log' r turns' => turns'.unique turns, ?_, ?_, ?_, ?_, ?_, turns.keys_eq⟩
    · exact fun body' same => (turns.congr same).forEach_eq
    · have distinct : keys.Nodup := order.nodup_iff.mpr Std.TreeMap.nodup_keys
      exact turns.keys_prefix.sublist.nodup distinct
    · intro turn mem
      have inside := turns.keys_prefix.subset (List.mem_map_of_mem mem)
      exact Std.TreeMap.mem_keys.mp (order.subset inside)
    · intro turn mem
      rw [Std.TreeMap.mem_iff_isSome_getElem?]
      rcases turns.of_mem mem with ⟨n, entered, enters⟩ | ⟨absent, missing⟩
      · obtain ⟨value, held, -⟩ := enters.lookup
        rw [entered, held]
        exact iff_of_true rfl rfl
      · rw [absent, missing]
        rfl
    · intro turn mem n entered
      rcases turns.of_mem mem with ⟨n', entered', enters⟩ | ⟨absent, -⟩
      · obtain rfl := Option.some.inj (entered.symm.trans entered')
        exact enters.lookup
      · rw [absent] at entered
        cases entered

end Eval

namespace Eval

/-- The body takes one key out of the array before its turn comes, puts another one in, and changes
an element that is still to come. -/
theorem forIn_visits_snapshot_changed :
    let l := Location.unknown
    let block := Block.mk none [.delete "a" [.const "x"] l,
      .expr (.assign .plain (.elem "a" (.const "w") l) (.var "v" l) l),
      .expr (.assign .plain (.elem "a" (.const "y") l) (.const "9") l)] l
    let t : Table := (((∅ : Table).insert "x" ⟨"1"⟩).insert "y" ⟨"2"⟩).insert "z" ⟨"3"⟩
    let start := { Machine.ofRecords (.ofLines []) with
      globals := Machine.standardGlobals.insert "a" (.array t) }
    let body := sequence (Program.empty.exec 9) block.statements
    start.lookup "a" = some (.array t) ∧ ["z", "x", "y"].Perm t.keys ∧
      ∃ log, Visits "v" "a" body t ["z", "x", "y"] start log ∧
        log.map (fun turn => (turn.key, turn.entry?.map (·.globals.scalar "v"))) =
          [("z", some ⟨"3"⟩), ("x", none), ("y", some ⟨"9"⟩)] := by
  intro l block t start body
  have held : start.lookup "a" = some (.array t) := by
    rw [Machine.lookup_eq]
    exact congrArg (Option.or · _)
      ((Machine.standardGlobals.get?_insert "a" "a" (.array t)).trans (if_pos rfl))
  have order : ["z", "x", "y"].Perm t.keys := by decide +kernel
  obtain ⟨log, visits⟩ := (forIn_visits_snapshot held "v").2.2 _ order body
  refine ⟨held, order, log, visits, ?_⟩
  let n₁ := start.mapScopeOf "v" (·.insert "v" (.scalar ⟨"3"⟩))
  let m₁ := Run.stateOf (body n₁)
  let n₂ := m₁.mapScopeOf "v" (·.insert "v" (.scalar ⟨"9"⟩))
  have first : EntersTurn "v" "a" "z" start n₁ :=
    entersTurn_iff.mpr ⟨by decide +kernel, ⟨"3"⟩, by decide +kernel, rfl⟩
  have last : EntersTurn "v" "a" "y" m₁ n₂ :=
    entersTurn_iff.mpr ⟨by decide +kernel, ⟨"9"⟩, by decide +kernel, rfl⟩
  have ran₁ : body n₁ = .ok .next m₁ := Run.eq_ok_of_answer? (by decide +kernel)
  have ran₂ : body n₂ = .ok .next (Run.stateOf (body n₂)) :=
    Run.eq_ok_of_answer? (by decide +kernel)
  have gone : (m₁.tableAt "a")["x"]? = none := by decide +kernel
  have turns := Turns.taken first ran₁ rfl (.gone last.1 gone (.taken last ran₂ rfl (.done _)))
  rw [← visits.unique _ _ turns]
  decide +kernel

end Eval

end PatternAction
