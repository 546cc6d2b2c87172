import PatternAction.CommandLine
import PatternAction.Proofs.Record.Published
import PatternAction.Standard

/-!
What the command makes of its arguments.  Arguments that are understood are written down in the
things they say, in one way only, and each of these things leads from some options to others.  So
the options are what is said: all assignments in order, the last separator, the script of the last
origin, and the operands.  A script file is taken without a look at what is known already, so
another origin in front of it is lost; where there is none, no operand is.
-/

set_option autoImplicit false
set_option relaxedAutoImplicit false

namespace PatternAction

namespace CommandLine

/-! ## How arguments are written -/

/-- A text that is no option: it begins without a dash, or it is a dash alone. -/
def IsOperand (text : String) : Prop :=
  text = "-" ∨ text.toList.head? ≠ some '-'

namespace Item

/-- The arguments that say one thing.  A separator may be written directly behind its mark. -/
inductive Written : Item → List String → Prop
  | separator (text : String) : Written (.separator text) ["-F", text]
  | attached {text : String} : text ≠ "" → Written (.separator text) ["-F" ++ text]
  | assignment {name : String} (text : String) : '=' ∉ name.toList →
      Written (.assignment name text) ["-v", name ++ "=" ++ text]
  | scriptFile (path : String) : Written (.scriptFile path) ["-f", path]
  | operand {text : String} : IsOperand text → Written (.operand text) [text]

end Item

/-- The arguments that say several things, one after the other, and nothing else. -/
inductive AllWritten : List Item → List String → Prop
  | nil : AllWritten [] []
  | cons {item : Item} {items : List Item} {front args : List String} :
      item.Written front → AllWritten items args → AllWritten (item :: items) (front ++ args)

private theorem splitAssignment?_eq_some {cs name text : List Char}
    (h : splitAssignment? cs = some (name, text)) : cs = name ++ '=' :: text ∧ '=' ∉ name := by
  induction cs generalizing name with
  | nil => cases h
  | cons c cs ih =>
    rw [splitAssignment?] at h
    split at h
    · rename_i sign
      obtain ⟨rfl, rfl⟩ := Prod.mk.inj (Option.some.inj h)
      exact ⟨congrArg (· :: cs) sign, List.not_mem_nil⟩
    · rename_i other
      obtain ⟨⟨name', text'⟩, found, same⟩ := Option.map_eq_some_iff.mp h
      obtain ⟨rfl, rfl⟩ := Prod.mk.inj same
      obtain ⟨rfl, free⟩ := ih found
      exact ⟨rfl, fun mem => (List.mem_cons.mp mem).elim (Ne.symm other) free⟩

private theorem splitAssignment?_append {name : List Char} (free : '=' ∉ name) (text : List Char) :
    splitAssignment? (name ++ '=' :: text) = some (name, text) := by
  induction name with
  | nil => rfl
  | cons c name ih =>
    obtain ⟨other, free⟩ := not_or.mp (mt List.mem_cons.mpr free)
    rw [List.cons_append, splitAssignment?, if_neg (Ne.symm other), ih free]
    rfl

private theorem written_of_assignment? {text : String} {item : Item}
    (h : assignment? text = some item) :
    item.Written ["-v", text] := by
  obtain ⟨⟨name, value⟩, found, rfl⟩ := Option.map_eq_some_iff.mp h
  obtain ⟨whole, free⟩ := splitAssignment?_eq_some found
  have joined : text = String.ofList name ++ "=" ++ String.ofList value := by
    rw [← String.toList_inj]
    simp [whole]
  rw [joined]
  exact .assignment _ (by simpa using free)

private theorem assignment?_written {name : String} (free : '=' ∉ name.toList) (text : String) :
    assignment? (name ++ "=" ++ text) = some (.assignment name text) := by
  have whole : (name ++ "=" ++ text).toList = name.toList ++ '=' :: text.toList := by simp
  rw [assignment?, whole, splitAssignment?_append free]
  simp

private theorem written_of_single {arg : String} {item : Item} (plain : arg ≠ "-F")
    (h : single arg = .ok item) : item.Written [arg] := by
  unfold single at h
  split at h
  · rename_i text whole
    obtain rfl := Except.ok.inj h
    have joined : arg = "-F" ++ String.ofList text := by
      rw [← String.toList_inj]
      simp [whole]
    rw [joined] at plain ⊢
    refine .attached ?_
    rintro empty
    simp [empty] at plain
  · cases h
  · rename_i attached longer
    obtain rfl := Except.ok.inj h
    refine .operand ?_
    rw [IsOperand, ← String.toList_inj]
    cases whole : arg.toList with
    | nil => exact .inr (by simp)
    | cons c cs =>
      by_cases dash : c = '-'
      · subst dash
        cases cs with
        | nil => exact .inl rfl
        | cons d ds => exact absurd whole (longer d ds)
      · exact .inr (by simpa using dash)

private theorem single_attached (text : String) :
    single ("-F" ++ text) = .ok (.separator text) := by
  have whole : ("-F" ++ text).toList = '-' :: 'F' :: text.toList := by simp
  simp [single, whole]

private theorem single_operand {text : String} (h : IsOperand text) :
    single text = .ok (.operand text) := by
  rcases h with rfl | other
  · rfl
  · unfold single
    split
    · rename_i whole
      simp [whole] at other
    · rename_i whole
      simp [whole] at other
    · rfl

private theorem items_cons {arg : String}
    (h : arg ∉ ["-F", "-v", "-f", "--help", "-h", "--version"]) {item : Item}
    (found : single arg = .ok item) (args : List String) :
    items (arg :: args) = (item :: (items args).1, (items args).2) := by
  simp only [List.mem_cons, not_or, List.not_mem_nil] at h
  rw [items]
  all_goals simp_all

private theorem allWritten_items {args : List String} (complete : (items args).2 = .complete) :
    AllWritten (items args).1 args := by
  fun_induction items args with
  | case1 => exact .nil
  | case3 text args rest ending h ih =>
    rw [h] at ih
    exact .cons (.separator text) (ih complete)
  | case5 text args item found rest ending h ih =>
    rw [h] at ih
    exact .cons (written_of_assignment? found) (ih complete)
  | case8 path args rest ending h ih =>
    rw [h] at ih
    exact .cons (.scriptFile path) (ih complete)
  | case11 arg args alone before _ _ _ _ _ _ item found rest ending h ih =>
    rw [h] at ih
    have plain : arg ≠ "-F" := by
      rintro rfl
      cases args with
      | nil => exact alone rfl rfl
      | cons text args => exact before text args rfl rfl
    exact .cons (written_of_single plain found) (ih complete)
  | case2 | case4 | case6 | case7 | case9 | case10 | case12 => cases complete

private theorem items_of_allWritten {is : List Item} {args : List String} (h : AllWritten is args) :
    items args = (is, .complete) := by
  induction h with
  | nil => rfl
  | @cons item is front args written _ ih =>
    cases written with
    | separator text => rw [List.cons_append, List.singleton_append, items, ih]
    | @attached text some =>
      refine (items_cons ?_ (single_attached text) args).trans (by rw [ih])
      intro mem
      have same : ∀ o ∈ ["-F", "-v", "-f", "--help", "-h", "--version"],
          o.toList.take 2 = ['-', 'F'] → o = "-F" := by decide
      refine some ?_
      simpa using same _ mem (by simp)
    | assignment text free =>
      rw [List.cons_append, List.singleton_append, items, assignment?_written free, ih]
    | scriptFile path => rw [List.cons_append, List.singleton_append, items, ih]
    | @operand text isOperand =>
      refine (items_cons ?_ (single_operand isOperand) args).trans (by rw [ih])
      intro mem
      have dashed : ∀ o ∈ ["-F", "-v", "-f", "--help", "-h", "--version"],
          o ≠ "-" ∧ o.toList.head? = some '-' := by decide
      exact isOperand.elim (dashed _ mem).1 fun other => other (dashed _ mem).2

private theorem ending_of_plain {args : List String}
    (plain : ∀ a ∈ ["-h", "--help", "--version"], a ∉ args) :
    (items args).2 ≠ .help ∧ (items args).2 ≠ .version := by
  fun_induction items args with
  | case1 | case2 | case4 | case6 | case7 | case12 => exact ⟨nofun, nofun⟩
  | case3 text args rest ending h ih | case5 text args item found rest ending h ih
  | case8 text args rest ending h ih =>
    rw [h] at ih
    exact ih fun a mem inside =>
      plain a mem (List.mem_cons_of_mem _ (List.mem_cons_of_mem _ inside))
  | case9 arg args _ _ _ _ _ _ help =>
    refine absurd List.mem_cons_self (plain arg ?_)
    rcases help with rfl | rfl <;> simp
  | case10 args => exact absurd List.mem_cons_self (plain "--version" (by simp))
  | case11 arg args _ _ _ _ _ _ _ _ item found rest ending h ih =>
    rw [h] at ih
    exact ih fun a mem inside => plain a mem (List.mem_cons_of_mem _ inside)

end CommandLine

/-! ## Steps that read files only -/

namespace Dialogue

private theorem bind_done {α : Type} (x : Dialogue α) : x.bind .done = x := by
  induction x with
  | done a => rfl
  | readFile path next ih => exact congrArg (readFile path) (funext ih)
  | readLine next ih => exact congrArg readLine (funext ih)
  | readInput next ih => exact congrArg readInput (funext ih)
  | tell text next ih => exact congrArg (tell text) ih

private theorem bind_bind {α β γ : Type} (x : Dialogue α) (f : α → Dialogue β)
    (g : β → Dialogue γ) :
    (x.bind f).bind g = x.bind fun a => (f a).bind g := by
  induction x with
  | done a => rfl
  | readFile path next ih => exact congrArg (readFile path) (funext ih)
  | readLine next ih => exact congrArg readLine (funext ih)
  | readInput next ih => exact congrArg readInput (funext ih)
  | tell text next ih => exact congrArg (tell text) ih

instance : LawfulMonad Dialogue :=
  .mk' Dialogue bind_done (fun _ _ => rfl) bind_bind

end Dialogue

namespace CommandLine

open Dialogue (Site)

/-- A step is answered by the files of a site alone: it leaves the input to what follows, and it
shows nothing. -/
def Answers {α : Type} (x : Command α) (site : Site) (r : Except Failure α) : Prop :=
  ∀ (β : Type) (next : Except Failure α → Dialogue β),
    (Dialogue.bind x.run next).play site = (next r).play site

section Answers

variable {α β : Type} {x : Command α} {f : α → Command β} {site : Site} {a : α}

private theorem Answers.play {r : Except Failure α} (h : Answers x site r) :
    x.run.play site = (r, "") := by
  rw [← Dialogue.bind_done x.run]
  exact h _ .done

private theorem Answers.bind_ok (h : Answers x site (.ok a)) : (x >>= f).run.play site =
    (f a).run.play site :=
  h _ _

private theorem Answers.bind {r : Except Failure β} (h : Answers x site (.ok a))
    (next : Answers (f a) site r) : Answers (x >>= f) site r := by
  intro γ g
  change ((Dialogue.bind x.run _).bind g).play site = _
  rw [Dialogue.bind_bind, h]
  exact next γ g

private theorem Answers.bind_error {e : Failure} (h : Answers x site (.error e)) :
    Answers (x >>= f) site (.error e) := by
  intro γ g
  change ((Dialogue.bind x.run _).bind g).play site = _
  rw [Dialogue.bind_bind, h]
  rfl

private theorem answers_readFile (site : Site) (path : String) :
    Answers (Command.readFile path) site (.ok (site.files path)) :=
  fun _ _ => rfl

end Answers

/-! ## What arguments amount to -/

/-- One thing that is said leads from some options to others. -/
inductive Options.Adds (site : Site) (o : Options) : Item → Options → Prop
  | separator (text : String) : Adds site o (.separator text) { o with separator := some text }
  | assignment (name text : String) :
      Adds site o (.assignment name text) { o with assignments := o.assignments ++ [(name, text)] }
  | scriptFile {path text : String} : site.files path = .ok text →
      Adds site o (.scriptFile path) { o with script := some text }
  | script {text : String} : o.script = .none →
      Adds site o (.operand text) { o with script := some text }
  | dataFile {text : String} : o.script.isSome → o.dataFile = .none →
      Adds site o (.operand text) { o with dataFile := some text }

/-- Several things lead from some options to others, one after the other. -/
inductive Options.AddsAll (site : Site) : Options → List Item → Options → Prop
  | nil (o : Options) : AddsAll site o [] o
  | cons {o₀ o₁ o : Options} {item : Item} {is : List Item} :
      o₀.Adds site item o₁ → AddsAll site o₁ is o → AddsAll site o₀ (item :: is) o

private theorem Options.answers_add (site : Site) (o : Options) (item : Item) :
    ∃ r, Answers (o.add item) site r ∧ ∀ o', r = .ok o' → o.Adds site item o' := by
  cases item with
  | separator text =>
    exact ⟨.ok _, fun _ _ => rfl, fun _ same => Except.ok.inj same ▸ .separator text⟩
  | assignment name text =>
    exact ⟨.ok _, fun _ _ => rfl, fun _ same => Except.ok.inj same ▸ .assignment name text⟩
  | scriptFile path =>
    cases found : site.files path with
    | ok text =>
      refine ⟨.ok { o with script := some text }, ?_,
        fun _ same => Except.ok.inj same ▸ .scriptFile found⟩
      refine (answers_readFile site path).bind ?_
      rw [found]
      exact fun _ _ => rfl
    | error fault =>
      refine ⟨.error (.file fault), ?_, nofun⟩
      refine (answers_readFile site path).bind ?_
      rw [found]
      exact fun _ _ => rfl
  | operand text =>
    simp only [add]
    split
    · rename_i unknown
      have fresh := Option.isNone_iff_eq_none.mp unknown
      exact ⟨.ok _, fun _ _ => rfl, fun _ same => Except.ok.inj same ▸ .script fresh⟩
    · rename_i known
      have known : o.script.isSome :=
        Option.isSome_iff_ne_none.mpr (mt Option.isNone_iff_eq_none.mpr known)
      split
      · rename_i unknown
        have fresh := Option.isNone_iff_eq_none.mp unknown
        exact ⟨.ok _, fun _ _ => rfl, fun _ same => Except.ok.inj same ▸ .dataFile known fresh⟩
      · exact ⟨.error (.misuse (.extraFile text)), fun _ _ => rfl, nofun⟩

private theorem Options.answers_addAll (site : Site) (o : Options) (is : List Item) :
    ∃ r, Answers (o.addAll is) site r ∧ ∀ o', r = .ok o' → o.AddsAll site is o' := by
  induction is generalizing o with
  | nil => exact ⟨.ok o, fun _ _ => rfl, fun _ same => Except.ok.inj same ▸ .nil o⟩
  | cons item is ih =>
    obtain ⟨r, answers, adds⟩ := o.answers_add site item
    cases r with
    | error e => exact ⟨.error e, answers.bind_error, nofun⟩
    | ok o₁ =>
      obtain ⟨r, rest, addsAll⟩ := ih o₁
      exact ⟨r, answers.bind rest, fun o' same => .cons (adds o₁ rfl) (addsAll o' same)⟩

/-! ## What is in use -/

namespace Item

/-- The separator that is given here. -/
def separator? : Item → Option String
  | .separator text => some text
  | _ => none

/-- The variable and its value that are given here. -/
def pair? : Item → Option (String × String)
  | .assignment name text => some (name, text)
  | _ => none

/-- The operand that is given here. -/
def operand? : Item → Option String
  | .operand text => some text
  | _ => none

end Item

/-- What a script is taken from. -/
inductive Origin where
  | inline (text : String)
  | file (path : String)
deriving DecidableEq, Repr

namespace Origin

def inline? : Origin → Option String
  | .inline text => some text
  | .file _ => none

def text (site : Site) : Origin → Except FileFault String
  | .inline text => .ok text
  | .file path => site.files path

end Origin

/-- All that a script is said to be taken from: the script files, and an operand if none is known in
front of it. -/
def origins (known : Bool) : List Item → List Origin
  | [] => []
  | .scriptFile path :: is => .file path :: origins true is
  | .operand text :: is => if known then origins true is else .inline text :: origins true is
  | .separator _ :: is | .assignment _ _ :: is => origins known is

/-- No script file takes the place of something else that the script was to be taken from. -/
def NoneReplaced (is : List Item) : Prop :=
  ∀ front path back, is = front ++ .scriptFile path :: back → origins false front = []

private theorem origins_append (known : Bool) (is js : List Item) :
    origins known (is ++ js) =
      origins known is ++ origins (known || !(origins known is).isEmpty) js := by
  induction is generalizing known with
  | nil => simp [origins]
  | cons item is ih =>
    cases item with
    | separator text | assignment name text => exact ih known
    | scriptFile path => simp [origins, ih]
    | operand text => cases known <;> simp [origins, ih]

private theorem length_origins_le_one_iff {is : List Item} :
    (origins false is).length ≤ 1 ↔ NoneReplaced is := by
  constructor
  · rintro few front path back rfl
    rw [origins_append, origins, List.length_append, List.length_cons] at few
    exact List.length_eq_zero_iff.mp (by omega)
  · intro none
    induction is with
    | nil => exact Nat.zero_le 1
    | cons item is ih =>
      have behind (front : List Item) (path : String) (back : List Item)
          (split : is = front ++ .scriptFile path :: back) : origins false (item :: front) = [] :=
        none (item :: front) path back (congrArg (item :: ·) split)
      -- Behind a first origin there is no script file, so no other origin is left.
      have alone (first : ∀ front, origins false (item :: front) ≠ []) : origins true is = [] := by
        have noFile (path : String) : .scriptFile path ∉ is := by
          intro mem
          obtain ⟨front, back, split⟩ := List.append_of_mem mem
          exact first front (behind front path back split)
        clear ih none behind first
        induction is with
        | nil => rfl
        | cons item is ih =>
          have rest := ih fun path mem => noFile path (List.mem_cons_of_mem _ mem)
          cases item with
          | scriptFile path => exact absurd List.mem_cons_self (noFile path)
          | separator text | assignment name text | operand text => exact rest
      cases item with
      | separator text | assignment name text => exact ih behind
      | scriptFile path =>
        have others := alone fun front => by simp [origins]
        simp [origins, others]
      | operand text =>
        have others := alone fun front => by simp [origins]
        simp [origins, others]

namespace Options

variable {site : Site} {o₀ o : Options} {is : List Item}

private theorem AddsAll.assignments (h : o₀.AddsAll site is o) :
    o.assignments = o₀.assignments ++ is.filterMap Item.pair? := by
  induction h with
  | nil o => simp
  | cons adds _ ih =>
    rw [ih]
    cases adds <;> simp [Item.pair?, List.filterMap_cons]

private theorem AddsAll.separator (h : o₀.AddsAll site is o) :
    o.separator = (is.filterMap Item.separator?).getLast?.or o₀.separator := by
  induction h with
  | nil o => simp
  | cons adds _ ih =>
    rw [ih]
    cases adds <;> simp [Item.separator?, List.filterMap_cons, List.getLast?_cons]

private theorem AddsAll.script (h : o₀.AddsAll site is o) : o.script.map Except.ok =
    ((origins o₀.script.isSome is).map (·.text site)).getLast?.or (o₀.script.map .ok) := by
  induction h with
  | nil o => simp [origins]
  | cons adds _ ih =>
    rw [ih]
    cases adds with
    | separator text | assignment name text => rfl
    | scriptFile read => simp [origins, List.getLast?_cons, Origin.text, read]
    | script unknown => simp [origins, List.getLast?_cons, Origin.text, unknown]
    | dataFile known => simp [origins, known]

private theorem AddsAll.operands (h : o₀.AddsAll site is o)
    (ordered : o₀.dataFile.isSome → o₀.script.isSome) :
    o₀.dataFile.toList ++ is.filterMap Item.operand? =
      (origins o₀.script.isSome is).filterMap Origin.inline? ++ o.dataFile.toList := by
  induction h with
  | nil o => simp [origins]
  | cons adds _ ih =>
    cases adds with
    | separator text | assignment name text => exact ih ordered
    | scriptFile read =>
      have rest := ih fun _ => rfl
      simpa [origins, Item.operand?, Origin.inline?, List.filterMap_cons] using rest
    | script unknown =>
      have rest := ih fun _ => rfl
      have fresh := Option.not_isSome_iff_eq_none.mp (mt ordered (by simp [unknown]))
      simp_all [origins, Item.operand?, Origin.inline?]
    | dataFile known fresh =>
      have rest := ih fun _ => known
      simpa [origins, known, fresh, Item.operand?, List.filterMap_cons] using rest

end Options

/-! ## The whole command -/

/-- Take in all that the arguments say, up to the first that is not understood.  No answer is asked
of them here. -/
def readOptions (args : List String) : Command Options := do
  let o ← Options.none.addAll (items args).1
  match (items args).2 with
  | .misuse cause => throw (.misuse cause)
  | .complete | .help | .version => return o

variable [Platform]

/-- What the command does with its options. -/
def Options.proceed (fuel : Nat) (o : Options) : Command Outcome := do
  let (script, source) ← match o.script? with
    | some given => pure given
    | Option.none => askForPaths
  execute fuel o script source

/-- Without a question for help or for the version the command is to take in all arguments, and then
to go on with the options. -/
private theorem command_of_plain {args : List String}
    (plain : ∀ a ∈ ["-h", "--help", "--version"], a ∉ args) (fuel : Nat) :
    command fuel args = readOptions args >>= Options.proceed fuel := by
  obtain ⟨help, version⟩ := ending_of_plain plain
  rw [readOptions, bind_assoc]
  refine congrArg (Options.none.addAll (items args).1 >>= ·) (funext fun o => ?_)
  cases ending : (items args).2 with
  | help => exact absurd ending help
  | version => exact absurd ending version
  | misuse cause => rfl
  | complete => exact (pure_bind o (Options.proceed fuel)).symm

omit [Platform]

private theorem of_readOptions {args : List String} {site : Site} {o : Options}
    (plain : ∀ a ∈ ["-h", "--help", "--version"], a ∉ args)
    (accepted : ((readOptions args).run.play site).1 = .ok o) :
    (items args).2 = .complete ∧ Options.none.AddsAll site (items args).1 o ∧
      Answers (readOptions args) site (.ok o) := by
  obtain ⟨help, version⟩ := ending_of_plain plain
  obtain ⟨r, answers, adds⟩ := Options.answers_addAll site .none (items args).1
  cases r with
  | error e =>
    rw [readOptions, answers.bind_error.play] at accepted
    cases accepted
  | ok o' =>
    rw [readOptions, answers.bind_ok] at accepted
    cases ending : (items args).2 with
    | help => exact absurd ending help
    | version => exact absurd ending version
    | misuse cause =>
      rw [ending] at accepted
      cases accepted
    | complete =>
      rw [ending] at accepted
      obtain rfl : o' = o := Except.ok.inj accepted
      refine ⟨rfl, adds o' rfl, answers.bind ?_⟩
      rw [ending]
      exact fun _ _ => rfl

/-- The options are what the arguments say.  All assignments are made, in order; the separator is
the last one; the script is that of the last origin; and every operand is an origin of the script or
the data file.  Exactly where no script file takes the place of another origin there is at most one
origin, and then every operand is the script or the data file. -/
structure Options.InUse (o : Options) (site : Site) (is : List Item) : Prop where
  assignments : o.assignments = is.filterMap Item.pair?
  separator : o.separator = (is.filterMap Item.separator?).getLast?
  script : o.script.map Except.ok = ((origins false is).map (·.text site)).getLast?
  operands : is.filterMap Item.operand? =
    (origins false is).filterMap Origin.inline? ++ o.dataFile.toList
  oneOrigin : NoneReplaced is ↔ (origins false is).length ≤ 1
  noneIgnored : NoneReplaced is →
    ∀ text ∈ is.filterMap Item.operand?, o.script = some text ∨ o.dataFile = some text

private theorem Options.AddsAll.inUse {site : Site} {o : Options} {is : List Item}
    (h : Options.none.AddsAll site is o) : o.InUse site is := by
  have script : o.script.map Except.ok = ((origins false is).map (·.text site)).getLast? :=
    h.script.trans (Option.or_none ..)
  have operands : is.filterMap Item.operand? =
      (origins false is).filterMap Origin.inline? ++ o.dataFile.toList :=
    h.operands nofun
  refine ⟨h.assignments, h.separator.trans (Option.or_none ..), script, operands,
    length_origins_le_one_iff.symm, fun none text mem => ?_⟩
  rw [operands, List.mem_append] at mem
  rcases mem with inline | data
  · obtain ⟨origin, inside, same⟩ := List.mem_filterMap.mp inline
    have only : origins false is = [origin] := by
      have few := length_origins_le_one_iff.mpr none
      cases all : origins false is with
      | nil =>
        rw [all] at inside
        cases inside
      | cons first others =>
        rw [all] at few inside
        obtain rfl : others = [] := List.length_eq_zero_iff.mp (by simpa using few)
        rw [List.mem_singleton.mp inside]
    cases origin with
    | inline text' =>
      obtain rfl : text' = text := Option.some.inj same
      rw [only] at script
      obtain ⟨found, known, equal⟩ := Option.map_eq_some_iff.mp script
      exact .inl (known.trans (congrArg some (Except.ok.inj equal)))
    | file path => cases same
  · exact .inr (Option.mem_toList.mp data)

end CommandLine

/-! ## At the start of the run -/

/-- The value that a name is given last. -/
def lastValue? (name : String) (pairs : List (String × String)) : Option String :=
  (pairs.filter (·.1 = name)).getLast?.map Prod.snd

private theorem Machine.get?_setGlobals_last (name : String) (pairs : List (String × String))
    (m : Machine) :
    (pairs.foldl (fun m (known, text) => m.setGlobal known text) m).globals.get? name =
      ((lastValue? name pairs).map fun text => .scalar ⟨text⟩).or (m.globals.get? name) := by
  induction pairs generalizing m with
  | nil => rfl
  | cons pair pairs ih =>
    have bound : (m.setGlobal pair.1 pair.2).globals.get? name =
        if pair.1 = name then some (.scalar ⟨pair.2⟩) else m.globals.get? name :=
      Scope.get?_setScalar m.globals pair.1 name ⟨pair.2⟩
    rw [List.foldl_cons, ih, bound, lastValue?, lastValue?, List.filter_cons]
    split
    · rename_i here
      rw [if_pos (by simpa using here), List.getLast?_cons]
      cases (pairs.filter (·.1 = name)).getLast? <;> rfl
    · rename_i other
      rw [if_neg (by simpa using other)]

private theorem Machine.get?_globals_setGlobal? (m : Machine) (known name : String)
    (text? : Option String) :
    (m.setGlobal? known text?).globals.get? name =
      if known = name then (text?.map fun text => .scalar ⟨text⟩).or (m.globals.get? name)
      else m.globals.get? name := by
  cases text? with
  | none => exact (ite_self _).symm
  | some text => exact Scope.get?_setScalar m.globals known name ⟨text⟩

private theorem get?_standardGlobals_separator :
    Machine.standardGlobals.get? "FS" = some (.scalar ⟨" "⟩) := by
  simp [Machine.standardGlobals, Scope.get?_setScalar]

/-- At the start of a run a name that was assigned to has the value assigned last; the separator, if
it was not assigned to, is the one that was set, or a blank. -/
private theorem Machine.get?_start (records : Records) (s : Setup) :
    let start := (Machine.ofRecords records).setUp s
    (∀ name text, lastValue? name s.assignments = some text →
      start.globals.get? name = some (.scalar ⟨text⟩)) ∧
    (lastValue? "FS" s.assignments = none →
      start.globals.get? "FS" = some (.scalar ⟨s.separator.getD " "⟩)) := by
  intro start
  have bound (name : String) := Machine.get?_setGlobals_last name s.assignments
    (((Machine.ofRecords records).setGlobal? "FILENAME" s.fileName).setGlobal? "FS" s.separator)
  refine ⟨fun name text last => (bound name).trans (by rw [last]; rfl), fun none => ?_⟩
  refine (bound "FS").trans ?_
  have standard : (Machine.ofRecords records).globals.get? "FS" = some (.scalar ⟨" "⟩) :=
    get?_standardGlobals_separator
  rw [none, Option.map_none, Option.none_or, Machine.get?_globals_setGlobal?, if_pos rfl,
    Machine.get?_globals_setGlobal?, if_neg (by decide), standard]
  cases s.separator <;> rfl

section AnyPlatform

variable [Platform]

/-! ## What is accepted -/

namespace CommandLine

open Dialogue (Site)

/-- Arguments that are accepted say certain things, can be read in no other way, and are in use.
The command goes on with the options they lead to, and a run with these options starts with every
variable that is assigned to at its last value, and with the separator that is given last. -/
theorem accepted_in_use {args : List String} {site : Site} {o : Options}
    (plain : ∀ a ∈ ["-h", "--help", "--version"], a ∉ args)
    (accepted : ((readOptions args).run.play site).1 = .ok o) :
    (∃ is, AllWritten is args ∧ (∀ js, AllWritten js args → js = is) ∧ o.InUse site is) ∧
    (∀ fuel, command fuel args = readOptions args >>= Options.proceed fuel ∧
      (command fuel args).run.play site = (o.proceed fuel).run.play site) ∧
    ∀ records fileName,
      let start := (Machine.ofRecords records).setUp ⟨fileName, o.separator, o.assignments⟩
      (∀ name text, lastValue? name o.assignments = some text →
        start.globals.get? name = some (.scalar ⟨text⟩)) ∧
      (lastValue? "FS" o.assignments = none →
        start.globals.get? "FS" = some (.scalar ⟨o.separator.getD " "⟩)) := by
  obtain ⟨complete, adds, answers⟩ := of_readOptions plain accepted
  refine ⟨⟨(items args).1, allWritten_items complete, fun js written => ?_, adds.inUse⟩,
    fun fuel => ⟨command_of_plain plain fuel, ?_⟩, fun records fileName => ?_⟩
  · rw [items_of_allWritten written]
  · rw [command_of_plain plain, answers.bind_ok]
  · exact Machine.get?_start records ⟨fileName, o.separator, o.assignments⟩

def mixedArguments : List String :=
  ["-F", ":", "-v", "n=1", "-f", "p.awk", "-F,", "-v", "n=2", "d.txt"]

def mixedSite : Site :=
  ⟨fun _ => .ok "\x7b print $2 \x7d", []⟩

end CommandLine

end AnyPlatform

namespace CommandLine

theorem accepted_in_use_mixed :
    let o : Options :=
      ⟨some ",", some "\x7b print $2 \x7d", some "d.txt", [("n", "1"), ("n", "2")]⟩
    (∀ a ∈ ["-h", "--help", "--version"], a ∉ mixedArguments) ∧
    ((readOptions mixedArguments).run.play mixedSite).1 = .ok o ∧
    ∃ is, AllWritten is mixedArguments ∧ (∀ js, AllWritten js mixedArguments → js = is) ∧
      o.InUse mixedSite is := by
  have plain : ∀ a ∈ ["-h", "--help", "--version"], a ∉ mixedArguments := by decide
  exact ⟨plain, by rfl, (accepted_in_use plain (by rfl)).1⟩

/-- A script file takes the place of a script that is given in front of it, and nothing is said
about it. -/
theorem operand_replaced :
    let args := ["d.txt", "-f", "p.awk"]
    let script := "\x7b print $2 \x7d"
    let site : Dialogue.Site :=
      ⟨fun path => if path = "p.awk" then .ok script else .ok "x y\n", []⟩
    (∀ a ∈ ["-h", "--help", "--version"], a ∉ args) ∧
    ∃ o, ((readOptions args).run.play site).1 = .ok o ∧
      (items args).1.filterMap Item.operand? = ["d.txt"] ∧
      o.script ≠ some "d.txt" ∧ o.dataFile ≠ some "d.txt" ∧
      origins false (items args).1 = [.inline "d.txt", .file "p.awk"] := by
  exact ⟨by decide, ⟨none, some "\x7b print $2 \x7d", none, []⟩, rfl, rfl, by decide, nofun, rfl⟩

end CommandLine

end PatternAction
