import PatternAction.Proofs.Run.Composed

/-!
Calls are isolated from the frames beneath them.  A step is local if it neither sees nor changes
any frame but the innermost: over further frames it gives the same answer or fault, changes the
innermost frame and all that is no frame in the same way, and leaves the further frames as they
were.  The elementary steps are local, a call inside a local step is local, and so is every
expression, statement and list of statements of a script.
-/

set_option autoImplicit false
set_option relaxedAutoImplicit false

namespace PatternAction

def Machine.withFrames (m : Machine) (frames : List Scope) : Machine :=
  { m with frames }

namespace Run

variable {α β : Type}

/-- Two outcomes that differ only in the frames `fs` beneath the innermost one: the first has none
there, the second exactly these. -/
inductive AgreeOver (fs : List Scope) :
    EStateM.Result RunHalt Machine α → EStateM.Result RunHalt Machine α → Prop
  | ok (a : α) (m : Machine) (top : Scope) :
      AgreeOver fs (.ok a (m.withFrames [top])) (.ok a (m.withFrames (top :: fs)))
  | error (halt : RunHalt) (m : Machine) (top : Scope) :
      AgreeOver fs (.error halt (m.withFrames [top])) (.error halt (m.withFrames (top :: fs)))

def stacked (fs : List Scope) :
    EStateM.Result RunHalt Machine α → EStateM.Result RunHalt Machine α
  | .ok a m => .ok a (m.withFrames (m.frames ++ fs))
  | .error halt m => .error halt (m.withFrames (m.frames ++ fs))

private theorem AgreeOver.eq_stacked {fs : List Scope}
    {alone all : EStateM.Result RunHalt Machine α}
    (h : AgreeOver fs alone all) : all = stacked fs alone := by
  cases h with
  | ok a m top => rfl
  | error halt m top => rfl

/-- A step that depends on no frame but the innermost, and leaves all others alone. -/
def Local (x : Run α) : Prop :=
  ∀ (m : Machine) (top : Scope) (fs : List Scope),
    AgreeOver fs (x (m.withFrames [top])) (x (m.withFrames (top :: fs)))

/-! ## Ways of combining -/

private theorem local_pure (a : α) : Local (Pure.pure a : Run α) :=
  fun m top _ => .ok a m top

private theorem local_throw (halt : RunHalt) : Local (throw halt : Run α) :=
  fun m top _ => .error halt m top

private theorem Local.bind {x : Run α} {f : α → Run β} (hx : Local x) (hf : ∀ a, Local (f a)) :
    Local (x >>= f) := by
  intro m top fs
  have first := hx m top fs
  show AgreeOver fs (EStateM.bind x f _) (EStateM.bind x f _)
  simp only [EStateM.bind]
  generalize x (m.withFrames [top]) = alone at first ⊢
  generalize x (m.withFrames (top :: fs)) = all at first ⊢
  cases first with
  | ok a m' top' => exact hf a m' top' fs
  | error halt m' top' => exact .error halt m' top'

private theorem Local.withFrame {body : Run α} (hbody : Local body) (frame : Scope) :
    Local (Run.withFrame frame body) := by
  intro m top fs
  -- Both runs have a caller's frame beneath the body's, so each is compared with the body alone.
  have overCaller := hbody m frame [top]
  have overAll := (hbody m frame (top :: fs)).eq_stacked
  simp only [Run.withFrame]
  change AgreeOver fs (match body (m.withFrames [frame, top]) with | .ok _ _ => _ | .error _ _ => _)
    (match body (m.withFrames (frame :: top :: fs)) with | .ok _ _ => _ | .error _ _ => _)
  rw [overAll]
  generalize body (m.withFrames [frame]) = alone at overCaller ⊢
  generalize body (m.withFrames [frame, top]) = called at overCaller ⊢
  cases overCaller with
  | ok a m' frame' => exact .ok (a, frame') m' top
  | error halt m' frame' => exact .error halt m' top

/-! ## Elementary steps -/

private theorem local_read {f : Machine → α}
    (h : ∀ (m : Machine) top fs, f (m.withFrames (top :: fs)) = f (m.withFrames [top])) :
    Local (do return f (← get) : Run α) := by
  intro m top fs
  change AgreeOver fs (.ok (f _) _) (.ok (f _) _)
  rw [h m top fs]
  exact .ok _ m top

private theorem local_mapScopeOf (name : String) (f : Scope → Scope) :
    Local (modify (·.mapScopeOf name f) : Run Unit) := by
  intro m top fs
  change AgreeOver fs (.ok () (Machine.mapScopeOf _ name f)) (.ok () (Machine.mapScopeOf _ name f))
  simp only [Machine.mapScopeOf, Machine.withFrames]
  by_cases bound : m.globals.contains name
  · simp only [bound, if_true]
    exact .ok () { m with globals := f m.globals } top
  · simp only [bound, if_false, Bool.false_eq_true]
    exact .ok () m (f top)

private theorem local_modify {f : Machine → Machine}
    (h : ∀ (m : Machine) frames, f (m.withFrames frames) = (f m).withFrames frames) :
    Local (modify f : Run Unit) := by
  intro m top fs
  change AgreeOver fs (.ok () (f _)) (.ok () (f _))
  rw [h, h]
  exact .ok () (f m) top

variable [Platform]

private theorem local_pattern (text : String) : Local (Run.pattern text) := by
  intro m top fs
  simp only [Run.pattern, Machine.withFrames]
  cases m.cache.compile text with
  | ok found => exact .ok found.1 { m with cache := found.2 } top
  | error fault => exact .error _ m top

omit [Platform] in
private theorem local_format (fmt : String) (args : List Scalar) : Local (Run.format fmt args) := by
  intro m top fs
  simp only [Run.format]
  cases Printf.sprintf fmt args with
  | some text => exact .ok text m top
  | none => exact .error .aborted m top

private theorem local_fields (text separator : Scalar) : Local (Run.fields text separator) := by
  intro m top fs
  simp only [Run.fields, Machine.withFrames]
  cases splitFields text.chars separator.text m.cache with
  | ok found => exact .ok found.1 { m with cache := found.2 } top
  | error fault => exact .error _ m top

private theorem local_advance? : Local Run.advance? := by
  intro m top fs
  simp only [Run.advance?, Machine.withFrames]
  cases m.records.advance m.globals m.cache with
  | error fault => exact .ok _ m top
  | ok next? =>
    cases next? with
    | none => exact .ok _ m top
    | some next =>
      obtain ⟨records, globals, cache⟩ := next
      exact .ok _ { m with records, globals, cache } top

omit [Platform] in
private theorem local_takeExit : Local Run.takeExit :=
  fun m top _ => .ok m.exit? { m with exit? := none } top

end Run

open Run

variable [Platform]

private theorem Step.isLocal (s : Step) : Local s.run := by
  cases s with
  | lookup name => exact local_read fun _ _ _ => rfl
  | store name value => exact local_mapScopeOf name _
  | remove name => exact local_mapScopeOf name _
  | global name => exact local_read fun _ _ _ => rfl
  | setGlobal name value => exact local_modify fun _ _ => rfl
  | pattern text => exact local_pattern text
  | format fmt args => exact local_format fmt args
  | fields text separator => exact local_fields text separator
  | advance? => exact local_advance?
  | resetRecords => exact local_modify fun _ _ => rfl
  | recordCount => exact local_read fun _ _ _ => rfl
  | skipRecords => exact local_modify fun _ _ => rfl
  | emit text => exact local_modify fun _ _ => rfl
  | requestExit status => exact local_modify fun _ _ => rfl
  | exitStatus? => exact local_read fun _ _ _ => rfl
  | takeExit => exact local_takeExit

private theorem Composed.isLocal {α : Type} {allowed : Licence} {x : Run α}
    (h : Composed allowed x) :
    Local x := by
  induction h with
  | pure a => exact local_pure a
  | throw halt _ => exact local_throw halt
  | bind _ _ ihx ihf => exact ihx.bind ihf
  | withFrame frame _ ih => exact ih.withFrame frame
  | step s _ => exact s.isLocal

/-- Statement lists, statements and expressions do over any frames `fs` beneath the innermost one
what they do over none, whether they end well or fail: the answer or fault, the innermost frame
and all the rest of the state come out the same, and the frames beneath are `fs` again. -/
theorem Program.frames_beneath_isolated (p : Program) (fuel : Nat) (m : Machine) (top : Scope)
    (fs : List Scope) :
    (∀ ss, AgreeOver fs (Eval.sequence (p.exec fuel) ss (m.withFrames [top]))
      (Eval.sequence (p.exec fuel) ss (m.withFrames (top :: fs)))) ∧
    (∀ s, AgreeOver fs (p.exec fuel s (m.withFrames [top]))
      (p.exec fuel s (m.withFrames (top :: fs)))) ∧
    ∀ e, AgreeOver fs (p.eval fuel e (m.withFrames [top]))
      (p.eval fuel e (m.withFrames (top :: fs))) := by
  refine ⟨fun ss => ?_, fun s => ?_, fun e => ?_⟩
  · exact (Eval.composed_sequence (p.composed_exec fuel) ss).isLocal m top fs
  · exact (p.composed_exec fuel s).isLocal m top fs
  · exact (p.composed_eval fuel e).isLocal m top fs

end PatternAction
