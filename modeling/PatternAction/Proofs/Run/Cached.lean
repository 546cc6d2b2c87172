import PatternAction.Proofs.Run.Fields
import PatternAction.Standard

/-!
The patterns compiled before are never seen.  A cache is sound if each pattern it holds is what its
text compiles to.  Two runs that start with sound caches, and are otherwise in the same state, give
the same answers or faults and stay in the same state but for their caches, which stay sound: this
holds of the elementary steps, and it is kept where steps are put together.

Where a text is cut at the matches of a separator, the separator is first put among the patterns
held and then looked up there.  It is always found, so the text that would have no fields otherwise
is never met.
-/

set_option autoImplicit false
set_option relaxedAutoImplicit false

namespace PatternAction

open Run

section AnyPlatform

variable [Platform]

/-! ## Lookups -/

namespace Pattern.Cache

variable {c : Cache}

omit [Platform] in
private theorem mem_keys {text : String} : text ∈ c.keys ↔ ∃ p, c.entries[text]? = some p := by
  rw [keys, Std.TreeMap.mem_keys, ← Option.isSome_iff_exists]
  exact Std.TreeMap.mem_iff_isSome_getElem?

private theorem Sound.compiles (sound : c.Sound) {text : String} (held : text ∈ c.keys) :
    ∃ p, Platform.compile text = .ok p := by
  obtain ⟨p, found⟩ := mem_keys.mp held
  exact ⟨p, sound text p found⟩

private theorem Sound.compile_eq (sound : c.Sound) (text : String) :
    ∃ d : Cache, d.Sound ∧ c.compile text = (Platform.compile text).map fun p => (p, d) := by
  cases compiled : c.compile text with
  | ok found =>
    obtain ⟨p, d⟩ := found
    obtain ⟨plain, sound'⟩ := sound.compile compiled
    refine ⟨d, sound', ?_⟩
    rw [plain]
    rfl
  | error f =>
    refine ⟨c, sound, ?_⟩
    unfold Cache.compile at compiled
    split at compiled
    · cases compiled
    · cases plain : Platform.compile text with
      | ok p =>
        rw [plain] at compiled
        cases compiled
      | error f' =>
        rw [plain] at compiled
        exact compiled.symm

/-- Put the pattern of a text among those held, unless it is held already. -/
def hold (c : Cache) (text : String) : Except Fault Cache :=
  if text ∈ c.entries then .ok c
  else (Platform.compile text).map fun p => ⟨c.entries.insert text p⟩

/-- Cut a text at the matches of a pattern that is looked up; if it is not held, there are no
fields. -/
def splitBy (c : Cache) (separator : String) (text : List Char) : List (List Char) :=
  match c.entries[separator]? with
  | some p => p.split text
  | none => []

private theorem mem_keys_of_hold {d : Cache} {text : String} (h : c.hold text = .ok d) :
    text ∈ d.keys := by
  unfold hold at h
  split at h
  · rename_i held
    obtain rfl := Except.ok.inj h
    rw [keys, Std.TreeMap.mem_keys]
    exact held
  · cases plain : Platform.compile text with
    | error f =>
      rw [plain] at h
      cases h
    | ok p =>
      rw [plain] at h
      obtain rfl := Except.ok.inj h
      rw [mem_keys]
      exact ⟨p, Std.TreeMap.getElem?_insert_self⟩

private theorem compile_map_split (c : Cache) (separator : String) (text : List Char) :
    (c.compile separator).map (fun found => (found.1.split text, found.2)) =
      (c.hold separator).map fun d => (d.splitBy separator text, d) := by
  unfold compile hold
  cases found : c.entries[separator]? with
  | some p =>
    have held : separator ∈ c.entries := by
      rw [Std.TreeMap.mem_iff_isSome_getElem?, found]
      rfl
    rw [if_pos held]
    simp only [Except.map, splitBy, found]
  | none =>
    have missing : separator ∉ c.entries := by
      rw [Std.TreeMap.mem_iff_isSome_getElem?, found]
      exact Bool.false_ne_true
    rw [if_neg missing]
    cases Platform.compile separator with
    | error f => rfl
    | ok p =>
      change Except.ok (p.split text, _) = Except.ok (splitBy _ separator text, _)
      simp only [splitBy, Std.TreeMap.getElem?_insert_self]

end Pattern.Cache

private theorem splitFields_eq_hold {text : List Char} (nonempty : text ≠ []) {separator : String}
    (long : 2 ≤ separator.toList.length) (c : Pattern.Cache) :
    splitFields text separator c =
      (c.hold separator).map fun d => (d.splitBy separator text, d) := by
  unfold splitFields
  rw [if_neg (by simpa using nonempty)]
  split
  · rename_i empty
    rw [empty] at long
    cases long
  · rename_i single
    rw [single] at long
    exact absurd long (by simp)
  · rw [← Pattern.Cache.compile_map_split]
    cases c.compile separator with
    | error f => rfl
    | ok found => rfl

private theorem Pattern.Cache.Sound.splitFields_eq {c : Pattern.Cache} (sound : c.Sound)
    (text : List Char) (separator : String) :
    ∃ d : Pattern.Cache, d.Sound ∧
      splitFields text separator c = (fieldsOf text separator).map fun fields => (fields, d) := by
  cases cut : splitFields text separator c with
  | ok result =>
    obtain ⟨fields, d⟩ := result
    obtain ⟨plain, sound'⟩ := splitFields_sound sound cut
    refine ⟨d, sound', ?_⟩
    rw [plain]
    rfl
  | error f =>
    refine ⟨c, sound, ?_⟩
    obtain ⟨uncompiled, uncut⟩ := splitFields_error_cases cut
    obtain ⟨d, -, compiled⟩ := sound.compile_eq separator
    rw [compiled] at uncompiled
    have first : Pattern.Cache.empty.compile separator = .error f := by
      rw [Pattern.Cache.compile_empty]
      cases plain : Platform.compile separator with
      | ok p =>
        rw [plain] at uncompiled
        cases uncompiled
      | error g =>
        rw [plain] at uncompiled
        exact uncompiled
    rw [fieldsOf, uncut _ _ first]
    rfl

/-! ## Runs that do not see the cache -/

def Machine.withCache (m : Machine) (cache : Pattern.Cache) : Machine :=
  { m with cache }

namespace Run

variable {α β : Type}

/-- Two outcomes that differ in nothing but their caches, both of which are sound. -/
inductive AgreeButCache :
    EStateM.Result RunHalt Machine α → EStateM.Result RunHalt Machine α → Prop
  | ok (a : α) (m : Machine) {c c' : Pattern.Cache} : c.Sound → c'.Sound →
      AgreeButCache (.ok a (m.withCache c)) (.ok a (m.withCache c'))
  | error (halt : RunHalt) (m : Machine) {c c' : Pattern.Cache} : c.Sound → c'.Sound →
      AgreeButCache (.error halt (m.withCache c)) (.error halt (m.withCache c'))

/-- A run to which it makes no difference which sound cache it starts with. -/
def IgnoresCache (x : Run α) : Prop :=
  ∀ (m : Machine) {c c' : Pattern.Cache}, c.Sound → c'.Sound →
    AgreeButCache (x (m.withCache c)) (x (m.withCache c'))

/-! ### Ways of combining -/

private theorem ignoresCache_pure (a : α) : IgnoresCache (Pure.pure a : Run α) :=
  fun m _ _ sound sound' => .ok a m sound sound'

private theorem ignoresCache_throw (halt : RunHalt) : IgnoresCache (throw halt : Run α) :=
  fun m _ _ sound sound' => .error halt m sound sound'

private theorem IgnoresCache.bind {x : Run α} {f : α → Run β} (hx : IgnoresCache x)
    (hf : ∀ a, IgnoresCache (f a)) : IgnoresCache (x >>= f) := by
  intro m c c' sound sound'
  have first := hx m sound sound'
  show AgreeButCache (EStateM.bind x f _) (EStateM.bind x f _)
  simp only [EStateM.bind]
  generalize x (m.withCache c) = one at first ⊢
  generalize x (m.withCache c') = other at first ⊢
  cases first with
  | ok a m' later later' => exact hf a m' later later'
  | error halt m' later later' => exact .error halt m' later later'

private theorem IgnoresCache.withFrame {body : Run α} (hbody : IgnoresCache body) (frame : Scope) :
    IgnoresCache (Run.withFrame frame body) := by
  intro m c c' sound sound'
  have inside := hbody { m with frames := frame :: m.frames } sound sound'
  have entering (d : Pattern.Cache) :
      ({ m.withCache d with frames := frame :: (m.withCache d).frames } : Machine) =
        Machine.withCache { m with frames := frame :: m.frames } d := rfl
  simp only [Run.withFrame, entering]
  generalize body (Machine.withCache _ c) = one at inside ⊢
  generalize body (Machine.withCache _ c') = other at inside ⊢
  cases inside with
  | ok a m' later later' =>
    exact .ok (a, m'.frames.headD .empty) { m' with frames := m'.frames.tail } later later'
  | error halt m' later later' =>
    exact .error halt { m' with frames := m'.frames.tail } later later'

/-! ### Elementary steps -/

private theorem ignoresCache_read {f : Machine → α}
    (h : ∀ (m : Machine) c, f (m.withCache c) = f m) :
    IgnoresCache (do return f (← get) : Run α) := by
  intro m c c' sound sound'
  change AgreeButCache (.ok (f _) _) (.ok (f _) _)
  rw [h m c, h m c']
  exact .ok _ m sound sound'

private theorem ignoresCache_modify {f : Machine → Machine}
    (h : ∀ (m : Machine) c, f (m.withCache c) = (f m).withCache c) :
    IgnoresCache (modify f : Run Unit) := by
  intro m c c' sound sound'
  change AgreeButCache (.ok () (f _)) (.ok () (f _))
  rw [h m c, h m c']
  exact .ok () (f m) sound sound'

private theorem ignoresCache_mapScopeOf (name : String) (f : Scope → Scope) :
    IgnoresCache (modify (·.mapScopeOf name f) : Run Unit) := by
  refine ignoresCache_modify fun m c => ?_
  obtain ⟨globals, frames, records, cache, exit?, output⟩ := m
  simp only [Machine.mapScopeOf, Machine.withCache]
  by_cases bound : globals.contains name
  · simp only [bound, if_true]
  · simp only [bound, if_false, Bool.false_eq_true]
    cases frames with
    | nil => rfl
    | cons frame frames => rfl

private theorem ignoresCache_pattern (text : String) : IgnoresCache (Run.pattern text) := by
  intro m c c' sound sound'
  obtain ⟨d, later, compiled⟩ := sound.compile_eq text
  obtain ⟨d', later', compiled'⟩ := sound'.compile_eq text
  simp only [Run.pattern, Machine.withCache, compiled, compiled']
  cases Platform.compile text with
  | ok p => exact .ok p m later later'
  | error f => exact .error _ m sound sound'

private theorem ignoresCache_format (fmt : String) (args : List Scalar) :
    IgnoresCache (Run.format fmt args) := by
  intro m c c' sound sound'
  simp only [Run.format]
  cases Printf.sprintf fmt args with
  | some text => exact .ok text m sound sound'
  | none => exact .error _ m sound sound'

private theorem ignoresCache_fields (text separator : Scalar) :
    IgnoresCache (Run.fields text separator) := by
  intro m c c' sound sound'
  obtain ⟨d, later, cut⟩ := sound.splitFields_eq text.chars separator.text
  obtain ⟨d', later', cut'⟩ := sound'.splitFields_eq text.chars separator.text
  simp only [Run.fields, Machine.withCache, cut, cut']
  cases fieldsOf text.chars separator.text with
  | ok fields => exact .ok fields m later later'
  | error f => exact .error _ m sound sound'

private theorem ignoresCache_advance? : IgnoresCache Run.advance? := by
  intro m c c' sound sound'
  simp only [Run.advance?, Machine.withCache, Records.advance]
  cases m.records.lines[m.records.position]? with
  | none => exact .ok _ m sound sound'
  | some line =>
    obtain ⟨d, later, cut⟩ :=
      sound.splitFields_eq line.toList (m.globals.scalar "FS").text
    obtain ⟨d', later', cut'⟩ :=
      sound'.splitFields_eq line.toList (m.globals.scalar "FS").text
    simp only [cut, cut']
    cases fieldsOf line.toList (m.globals.scalar "FS").text with
    | error f => exact .ok _ m sound sound'
    | ok fields =>
      exact .ok _ { m with
        records := ⟨m.records.lines, m.records.position + 1, m.records.nr + 1,
          m.records.fnr + 1, fields.length⟩
        globals := Records.publish m.globals line fields m.records.fields (m.records.nr + 1)
          (m.records.fnr + 1) } later later'

end Run

private theorem Step.ignoresCache (s : Step) : IgnoresCache s.run := by
  cases s with
  | lookup name =>
    refine ignoresCache_read (f := (·.lookup name)) fun m c => ?_
    rfl
  | store name value => exact ignoresCache_mapScopeOf name _
  | remove name => exact ignoresCache_mapScopeOf name _
  | global name => exact ignoresCache_read fun _ _ => rfl
  | setGlobal name value => exact ignoresCache_modify fun _ _ => rfl
  | pattern text => exact ignoresCache_pattern text
  | format fmt args => exact ignoresCache_format fmt args
  | fields text separator => exact ignoresCache_fields text separator
  | advance? => exact ignoresCache_advance?
  | resetRecords => exact ignoresCache_modify fun _ _ => rfl
  | recordCount => exact ignoresCache_read fun _ _ => rfl
  | skipRecords => exact ignoresCache_modify fun _ _ => rfl
  | emit text => exact ignoresCache_modify fun _ _ => rfl
  | requestExit status => exact ignoresCache_modify fun _ _ => rfl
  | exitStatus? => exact ignoresCache_read fun _ _ => rfl
  | takeExit =>
    intro m c c' sound sound'
    exact .ok m.exit? { m with exit? := none } sound sound'

private theorem Composed.ignoresCache {α : Type} {allowed : Licence} {x : Run α}
    (h : Composed allowed x) : IgnoresCache x := by
  induction h with
  | pure a => exact ignoresCache_pure a
  | throw halt _ => exact ignoresCache_throw halt
  | bind _ _ ihx ihf => exact ihx.bind ihf
  | withFrame frame _ ih => exact ih.withFrame frame
  | step s _ => exact s.ignoresCache

private theorem Trace.sound {α : Type} {allowed : Step → Prop} {x : Run α} {m : Machine}
    {t : List Event} (h : Trace allowed x m t) (sound : m.cache.Sound) :
    (∀ e ∈ t, e.1.cache.Sound) ∧ (stateOf (x m)).cache.Sound :=
  h.keeps (I := fun m => m.cache.Sound) (fun _ _ kept => kept) (fun _ s _ kept => s.sound_run kept)
    sound

/-- From any state and with any two sound caches a script runs alike: its outcome, its output and
all of the state but the cache are the same.  Every cache on the way is sound and holds no text that
is no pattern.  And whenever a text is cut by a pattern, the separator is among the patterns held
when it is looked up there. -/
theorem Program.cache_transparent (p : Program) (fuel : Nat) (m : Machine) {c c' : Pattern.Cache}
    (sound : c.Sound) (sound' : c'.Sound) :
    AgreeButCache (p.run fuel (m.withCache c)) (p.run fuel (m.withCache c')) ∧
    (∃ t, Trace (fun _ => True) (p.run fuel) (m.withCache c) t) ∧
    (∀ t, Trace (fun _ => True) (p.run fuel) (m.withCache c) t →
      ∀ m', (m' ∈ t.map Prod.fst ∨ m' = stateOf (p.run fuel (m.withCache c))) →
        m'.cache.Sound ∧ ∀ text ∈ m'.cache.keys, ∃ q, Platform.compile text = .ok q) ∧
    ∀ (d : Pattern.Cache) (text : List Char) (separator : String),
      text ≠ [] → 2 ≤ separator.toList.length →
        splitFields text separator d =
          (d.hold separator).map (fun held => (held.splitBy separator text, held)) ∧
        ∀ held, d.hold separator = .ok held → separator ∈ held.keys := by
  have composed := p.composed_run fuel
  refine ⟨composed.ignoresCache m sound sound', composed.trace (m.withCache c), ?_, ?_⟩
  · intro t trace m' reached
    have sounds := trace.sound sound
    have here : m'.cache.Sound := by
      rcases reached with inside | rfl
      · obtain ⟨e, mem, rfl⟩ := List.mem_map.mp inside
        exact sounds.1 e mem
      · exact sounds.2
    exact ⟨here, fun text held => here.compiles held⟩
  · intro d text separator nonempty long
    exact ⟨splitFields_eq_hold nonempty long d, fun held h => Pattern.Cache.mem_keys_of_hold h⟩

end AnyPlatform

/-- A script that uses one text as a guard, as a separator and in a substitution, run with no
pattern held and with that one held. -/
theorem Program.cache_transparent_shared :
    let source := "`b+` \x7b gsub(`b+`, \"-\"); print split($0, a, \"b+\") \x7d"
    ∃ p c, ofSource source = .ok p ∧ c.Sound ∧ c.keys = ["b+"] ∧
      AgreeButCache
        (p.run 40 ((Machine.ofRecords (.ofLines ["abba"])).withCache .empty))
        (p.run 40 ((Machine.ofRecords (.ofLines ["abba"])).withCache c)) := by
  intro source
  have accepted : (ofSource source).toOption.isSome = true := by decide +kernel
  have held : (Pattern.Cache.empty.compile "b+").toOption.map (·.2.keys) = some ["b+"] := by
    decide +kernel
  cases read : ofSource source with
  | error halt =>
    rw [read] at accepted
    cases accepted
  | ok p =>
    cases compiled : Pattern.Cache.empty.compile "b+" with
    | error fault =>
      rw [compiled] at held
      cases held
    | ok found =>
      rw [compiled] at held
      have sound := (Pattern.Cache.sound_empty.compile compiled).2
      have alike := p.cache_transparent 40 (Machine.ofRecords (.ofLines ["abba"]))
        Pattern.Cache.sound_empty sound
      exact ⟨p, found.2, rfl, sound, Option.some.inj held, alike.1⟩

end PatternAction
