import PatternAction.Proofs.Run.Composed
import PatternAction.Proofs.Run.Frames
import PatternAction.Proofs.Run.Trace

/-!
Locals never become globals.  Whatever code does while a call is active, and however it ends, the
only new globals are those that records and assignments to fields bind; every other new binding is
one of the innermost call.  Each step keeps this, although a name is looked up among the globals
first and a global may be deleted at any time: a name that is no global is bound in the call.
-/

set_option autoImplicit false
set_option relaxedAutoImplicit false

namespace PatternAction

/-- A step that binds no globals by their names, but for fields. -/
def Step.bindsFields : Step → Prop
  | .setGlobal name _ => hasFieldSign name = true
  | _ => True

private theorem Licence.full_bindsFields : (Licence.ofSteps Step.bindsFields).Full := by
  refine ⟨⟨fun s common => ?_, fun _ _ => nofun, fun _ _ => trivial⟩, fun _ _ => trivial,
    fun _ => trivial⟩
  cases s with
  | setGlobal name value => exact common
  | _ => trivial

/-- From one state to the other, with a call active in both, only bindings of the innermost call
have changed, apart from globals that were there before or that records and fields bind. -/
structure Machine.BindsLocally (m m' : Machine) : Prop where
  active : m'.frames ≠ []
  beneath : m'.frames.tail = m.frames.tail
  globals : ∀ name, m'.globals.contains name = true →
    m.globals.contains name = true ∨ isPublished name = true

namespace Machine

variable {m m' m'' : Machine}

private theorem BindsLocally.refl (active : m.frames ≠ []) : m.BindsLocally m :=
  ⟨active, rfl, fun _ => .inl⟩

private theorem BindsLocally.trans (h : m.BindsLocally m') (h' : m'.BindsLocally m'') :
    m.BindsLocally m'' := by
  refine ⟨h'.active, h'.beneath.trans h.beneath, fun name bound => ?_⟩
  rcases h'.globals name bound with before | published
  · exact h.globals name before
  · exact .inr published

/-- A change of bindings that makes no other name than one known: if that is a global it was one
before, and if not, it is bound in the call. -/
private theorem bindsLocally_mapScopeOf (active : m.frames ≠ []) {name : String} {f : Scope → Scope}
    (only : ∀ (s : Scope) other, (f s).contains other = true →
      other = name ∨ s.contains other = true) : m.BindsLocally (m.mapScopeOf name f) := by
  unfold mapScopeOf
  cases global : m.globals.contains name with
  | true =>
    refine ⟨active, rfl, fun other bound => ?_⟩
    rcases only m.globals other bound with rfl | before
    · exact .inl global
    · exact .inl before
  | false =>
    obtain ⟨frame, frames, here⟩ := List.exists_cons_of_ne_nil active
    rw [if_neg Bool.false_ne_true, here]
    exact ⟨List.cons_ne_nil _ _, by rw [here]; rfl, fun _ => .inl⟩

end Machine

private theorem Scope.contains_insert {s : Scope} {name other : String} {value : Value}
    (h : (s.insert name value).contains other = true) :
    other = name ∨ s.contains other = true := by
  rw [contains_eq_isSome, get?_insert] at h
  split at h
  · rename_i same
    exact .inl same.symm
  · exact .inr (by rwa [contains_eq_isSome])

private theorem Scope.contains_erase {s : Scope} {name other : String}
    (h : (s.erase name).contains other = true) : s.contains other = true := by
  rw [contains_eq_isSome, get?_erase] at h
  split at h
  · cases h
  · rwa [contains_eq_isSome]

private theorem Scope.contains_publish (s : Scope) (line : String) (fields : List (List Char))
    (before nr fnr : Nat) {name : String} (other : isPublished name = false) :
    (Records.publish s line fields before nr fnr).contains name = s.contains name := by
  rw [contains_eq_isSome, contains_eq_isSome,
    Records.get?_publish_of_unpublished s line fields before nr fnr other]

variable [Platform]

private theorem Step.bindsLocally_run {s : Step} (ok : s.bindsFields) {m : Machine}
    (active : m.frames ≠ []) : m.BindsLocally (Run.stateOf (s.run m)) := by
  by_cases other : s.binds = false
  · obtain ⟨frames, kept | ⟨line, fields, published⟩⟩ := s.bindings_run other m
    · refine ⟨frames ▸ active, by rw [frames], fun name bound => ?_⟩
      rw [kept] at bound
      exact .inl bound
    · refine ⟨frames ▸ active, by rw [frames], fun name bound => ?_⟩
      cases new : isPublished name with
      | true => exact .inr rfl
      | false =>
        rw [published, Scope.contains_publish _ _ _ _ _ _ new] at bound
        exact .inl bound
  · cases s with
    | store name value =>
      exact Machine.bindsLocally_mapScopeOf active fun _ _ => Scope.contains_insert
    | remove name =>
      have only (scope : Scope) (known : String)
          (bound : (scope.erase name).contains known = true) :
          known = name ∨ scope.contains known = true :=
        .inr (Scope.contains_erase bound)
      exact Machine.bindsLocally_mapScopeOf active only
    | setGlobal name value =>
      refine ⟨active, rfl, fun known bound => ?_⟩
      rcases Scope.contains_insert bound with rfl | before
      · have sign : hasFieldSign known = true := ok
        exact .inr (by rw [isPublished, sign, Bool.true_or])
      · exact .inl before
    | _ => exact absurd rfl other

private theorem Composed.bindsLocally {α : Type} {x : Run α}
    (h : Composed (.ofSteps Step.bindsFields) x) {m : Machine} (active : m.frames ≠ []) :
    m.BindsLocally (Run.stateOf (x m)) := by
  induction h generalizing m with
  | pure a => exact .refl active
  | throw halt _ => exact .refl active
  | @bind _ _ x f _ _ ihx ihf =>
    have first := ihx active
    cases run : x m with
    | ok a m' =>
      rw [run] at first
      rw [Run.bind_ok run]
      exact first.trans (ihf a first.active)
    | error halt m' =>
      rw [run] at first
      rw [Run.bind_error run]
      exact first
  | @withFrame _ frame body _ ih =>
    have inner := ih (m := { m with frames := frame :: m.frames }) (List.cons_ne_nil _ _)
    have back := inner.beneath
    rw [Run.stateOf_withFrame]
    exact ⟨back ▸ active, congrArg List.tail back, inner.globals⟩
  | step s ok => exact s.bindsLocally_run ok active

/-- While a call is active, in every state, whatever lists of statements, statements and expressions
do, and however they end: every global afterwards was a global before or is named like a field or is
one of the counts, and the frames beneath the innermost one are as they were, so that all other new
bindings are in the innermost frame. -/
theorem Program.locals_stay_local (p : Program) (fuel : Nat) (m : Machine) (top : Scope)
    (fs : List Scope) :
    let before := m.withFrames (top :: fs)
    (∀ ss, before.BindsLocally (Run.stateOf (Eval.sequence (p.exec fuel) ss before))) ∧
      (∀ s, before.BindsLocally (Run.stateOf (p.exec fuel s before))) ∧
      ∀ e, before.BindsLocally (Run.stateOf (p.eval fuel e before)) := by
  intro before
  have active : before.frames ≠ [] := List.cons_ne_nil top fs
  have full := Licence.full_bindsFields
  have exec := p.composed_exec_of_full full fuel
  have eval := p.composed_eval_of_full full fuel
  refine ⟨fun ss => ?_, fun s => ?_, fun e => ?_⟩
  · exact (Composed.sequence full.reads exec ss).bindsLocally active
  · exact (exec s).bindsLocally active
  · exact (eval e).bindsLocally active

end PatternAction
