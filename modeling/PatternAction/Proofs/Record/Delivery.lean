import Mathlib.Data.List.DropRight
import PatternAction.Proofs.Record.Fields
import PatternAction.Proofs.Record.Published

/-!
Records are delivered in order, none lost and none repeated.  A session is records with the
bindings that they are delivered into; it is asked to advance, to start again and to skip, in any
order, and between two questions anything may happen to the bindings.  What the counters of the
records say is compared with the history of the session, the questions and their answers: the main
statement is that an advance delivers the line behind those delivered since the last start.
-/

set_option autoImplicit false
set_option relaxedAutoImplicit false

namespace PatternAction.Records

/-- Records, with what an advance reads and writes. -/
structure Session where
  records : Records
  scope : Scope
  cache : Pattern.Cache

/-- What can be asked of a session. -/
inductive Request where
  | advance
  | reset
  | skip
  /-- Nothing is asked of the records: the bindings and the patterns become other ones. -/
  | rebind (scope : Scope) (cache : Pattern.Cache)

def Request.isReset : Request → Bool
  | .reset => true
  | _ => false

def Request.isSkip : Request → Bool
  | .skip => true
  | _ => false

inductive Answer where
  | delivered
  | exhausted
  /-- The separator is no pattern. -/
  | refused (fault : Pattern.Fault)
  | done
deriving DecidableEq

/-- Questions and their answers, in order. -/
abbrev History := List (Request × Answer)

variable [Platform]

namespace Session

def step (s : Session) : Request → Answer × Session
  | .advance =>
    match s.records.advance s.scope s.cache with
    | .ok (some (records, scope, cache)) => (.delivered, ⟨records, scope, cache⟩)
    | .ok Option.none => (.exhausted, s)
    | .error f => (.refused f, s)
  | .reset => (.done, { s with records := s.records.reset })
  | .skip => (.done, { s with records := s.records.skip })
  | .rebind scope cache => (.done, { s with scope, cache })

/-- Ask one question after a history. -/
def ask (past : History × Session) (q : Request) : History × Session :=
  (past.1 ++ [(q, (past.2.step q).1)], (past.2.step q).2)

def run (s : Session) (requests : List Request) : History × Session :=
  requests.foldl ask ([], s)

end Session

namespace History

omit [Platform]

/-- What has happened since the last start. -/
def sinceReset (past : History) : History :=
  past.rtakeWhile (!·.1.isReset)

/-- How many records have been delivered since the last start. -/
def deliveries (past : History) : Nat :=
  past.sinceReset.countP (·.2 = .delivered)

/-- Whether the rest has been skipped since the last start. -/
def skipped (past : History) : Bool :=
  past.sinceReset.any (·.1.isSkip)

private theorem sinceReset_concat (past : History) (q : Request) (a : Answer) :
    sinceReset (past ++ [(q, a)]) = if q.isReset then [] else past.sinceReset ++ [(q, a)] := by
  rw [sinceReset, List.rtakeWhile_concat]
  cases q <;> rfl

private theorem deliveries_concat (past : History) (q : Request) (a : Answer) :
    deliveries (past ++ [(q, a)]) =
      if q.isReset then 0 else deliveries past + if a = .delivered then 1 else 0 := by
  rw [deliveries, sinceReset_concat]
  split
  · rfl
  · simp [deliveries, List.countP_cons]

private theorem skipped_concat (past : History) (q : Request) (a : Answer) :
    skipped (past ++ [(q, a)]) = (!q.isReset && (skipped past || q.isSkip)) := by
  rw [skipped, sinceReset_concat]
  cases q <;> simp [Request.isReset, skipped]

end History

open History

/-- The counters agree with the history: the records delivered have been counted twice, and the
place is behind the last of them, or behind all lines if the rest was skipped. -/
structure Counted (lines : List String) (past : History) (r : Records) : Prop where
  text : r.lines = lines.toArray
  nr : r.nr = deliveries past
  fnr : r.fnr = deliveries past
  position : r.position = if skipped past then lines.length else deliveries past
  bounded : deliveries past ≤ lines.length

variable {lines : List String} {past : History} {s : Session}

omit [Platform] in
private theorem Counted.exhausted_iff (h : Counted lines past s.records) :
    s.records.lines.size ≤ s.records.position ↔
      deliveries past = lines.length ∨ skipped past = true := by
  have bounded := h.bounded
  rw [h.text, h.position, List.size_toArray]
  split
  · rename_i skip
    simp [skip]
  · rename_i skip
    simp only [skip, Bool.false_eq_true, or_false]
    omega

private theorem Counted.delivered (h : Counted lines past s.records)
    (answer : (s.step .advance).1 = .delivered) :
    ∃ line fields, lines[deliveries past]? = some line ∧ skipped past = false ∧
      (s.step .advance).2.records = ⟨lines.toArray, deliveries past + 1, deliveries past + 1,
        deliveries past + 1, fields.length⟩ ∧
      (s.step .advance).2.scope = publish s.scope line fields s.records.fields
        (deliveries past + 1) (deliveries past + 1) := by
  unfold Session.step at answer ⊢
  cases next : s.records.advance s.scope s.cache with
  | error f =>
    rw [next] at answer
    cases answer
  | ok next? =>
    rw [next] at answer
    cases next? with
    | none => cases answer
    | some result =>
      obtain ⟨r', scope', cache'⟩ := result
      obtain ⟨line, fields, found, -, rfl, rfl⟩ := advance_eq_some next
      have left : ¬ s.records.lines.size ≤ s.records.position := by
        have := (Array.getElem?_eq_some_iff.mp found).1
        omega
      have fresh : skipped past = false :=
        Bool.not_eq_true _ ▸ fun skip => left (h.exhausted_iff.mpr (.inr skip))
      have position : s.records.position = deliveries past := by rw [h.position, fresh]; rfl
      refine ⟨line, fields, ?_, fresh, ?_, ?_⟩
      · rw [h.text, position] at found
        simpa using found
      · rw [h.text, h.nr, h.fnr, position]
      · rw [h.nr, h.fnr]

private theorem not_separates_of_refused {f : Pattern.Fault}
    (answer : (s.step .advance).1 = .refused f) :
    ¬ ((s.scope.scalar "FS").chars.length ≤ 1 ∨
      ∃ q, Platform.compile (s.scope.scalar "FS").text = .ok q) := by
  intro separates
  unfold Session.step advance at answer
  cases next : s.records.lines[s.records.position]? with
  | none =>
    rw [next] at answer
    cases answer
  | some line =>
    obtain ⟨fields, c, cut⟩ := exists_splitFields separates line.toList s.cache
    rw [next] at answer
    simp only [cut] at answer
    cases answer

private theorem step_ne_done : (s.step .advance).1 ≠ .done := by
  simp only [Session.step]
  split <;> simp

private theorem step_exhausted_iff :
    (s.step .advance).1 = .exhausted ↔ s.records.lines.size ≤ s.records.position := by
  rw [← @advance_eq_none_iff _ s.records s.scope s.cache]
  simp only [Session.step]
  split <;> simp_all

private theorem step_of_not_delivered (answer : (s.step .advance).1 ≠ .delivered) :
    (s.step .advance).2 = s := by
  simp only [Session.step] at answer ⊢
  split <;> simp_all

private theorem Counted.step (h : Counted lines past s.records) (q : Request) :
    Counted lines (past ++ [(q, (s.step q).1)]) (s.step q).2.records := by
  have count := deliveries_concat past q (s.step q).1
  have skips := skipped_concat past q (s.step q).1
  cases q with
  | reset =>
    replace count : deliveries _ = 0 := count
    exact ⟨h.text, count.symm, count.symm, by rw [skips, count]; rfl, by omega⟩
  | skip =>
    replace count : deliveries _ = deliveries past := count
    refine ⟨h.text, h.nr.trans count.symm, h.fnr.trans count.symm, ?_, count ▸ h.bounded⟩
    rw [skips]
    simp [Request.isReset, Request.isSkip, Session.step, skip, h.text]
  | rebind scope cache =>
    replace count : deliveries _ = deliveries past := count
    simp only [Request.isReset, Request.isSkip, Bool.not_false, Bool.true_and,
      Bool.or_false] at skips
    exact ⟨h.text, h.nr.trans count.symm, h.fnr.trans count.symm,
      by rw [count, skips]; exact h.position, count ▸ h.bounded⟩
  | advance =>
    simp only [Request.isReset, Request.isSkip, Bool.not_false, Bool.true_and,
      Bool.or_false] at skips
    simp only [Request.isReset, Bool.false_eq_true, if_false] at count
    by_cases answer : (s.step .advance).1 = .delivered
    · rw [if_pos answer] at count
      obtain ⟨line, fields, found, fresh, records, -⟩ := h.delivered answer
      have inside : deliveries past < lines.length := (List.getElem?_eq_some_iff.mp found).1
      rw [records]
      exact ⟨rfl, count.symm, count.symm, by rw [skips, fresh, count]; rfl, by omega⟩
    · rw [if_neg answer, Nat.add_zero] at count
      rw [step_of_not_delivered answer]
      exact ⟨h.text, h.nr.trans count.symm, h.fnr.trans count.symm,
        by rw [count, skips]; exact h.position, count ▸ h.bounded⟩

private theorem counted_run (lines : List String) (scope : Scope) (cache : Pattern.Cache)
    (requests : List Request) :
    Counted lines (Session.run ⟨ofLines lines, scope, cache⟩ requests).1
      (Session.run ⟨ofLines lines, scope, cache⟩ requests).2.records := by
  induction requests using List.reverseRecOn with
  | nil => exact ⟨rfl, rfl, rfl, rfl, Nat.zero_le _⟩
  | append_singleton requests q ih =>
    simp only [Session.run, List.foldl_append] at ih ⊢
    exact ih.step q

/-- After any questions, with any changes of the bindings between them, let `j` be the number of
records delivered since the start or the last reset.  Both counters are `j`, which is at most the
place, and the place is at most the number of lines.  If the next advance succeeds, it delivers the
line behind the first `j` and publishes `j + 1` as both counts; it finds no record exactly if all
lines have been delivered or the rest was skipped; if it is refused, the session stays as it is and
nothing is counted, so that the same line is the next one; and as long as there are lines left, it
does succeed if the separator has one character at most or is a pattern. -/
theorem session_delivers_in_order (lines : List String) (scope : Scope) (cache : Pattern.Cache)
    (requests : List Request) :
    let past := (Session.run ⟨ofLines lines, scope, cache⟩ requests).1
    let now := (Session.run ⟨ofLines lines, scope, cache⟩ requests).2
    let next := now.step .advance
    let j := deliveries past
    (now.records.nr = j ∧ now.records.fnr = j ∧ j ≤ now.records.position ∧
      now.records.position ≤ lines.length) ∧
    (next.1 = .delivered → ∃ line, lines[j]? = some line ∧
      next.2.scope.get? "$0" = some (.scalar ⟨line⟩) ∧
      next.2.scope.get? "NR" = some (.scalar (.ofCount (j + 1))) ∧
      next.2.scope.get? "FNR" = some (.scalar (.ofCount (j + 1)))) ∧
    (next.1 = .exhausted ↔ j = lines.length ∨ skipped past = true) ∧
    (∀ f, next.1 = .refused f → next.2 = now ∧ deliveries (past ++ [(.advance, next.1)]) = j) ∧
    (j < lines.length → skipped past = false →
      ((now.scope.scalar "FS").chars.length ≤ 1 ∨
        ∃ q, Platform.compile (now.scope.scalar "FS").text = .ok q) → next.1 = .delivered) := by
  intro past now next j
  have counted : Counted lines past now.records := counted_run lines scope cache requests
  have exhausted : next.1 = .exhausted ↔ j = lines.length ∨ skipped past = true := by
    rw [step_exhausted_iff, counted.exhausted_iff]
  refine ⟨⟨counted.nr, counted.fnr, ?_, ?_⟩, fun answer => ?_, exhausted,
    fun f answer => ⟨?_, ?_⟩, fun more fresh separates => ?_⟩
  · rw [counted.position]
    split
    · exact counted.bounded
    · exact Nat.le_refl _
  · rw [counted.position]
    split
    · exact Nat.le_refl _
    · exact counted.bounded
  · obtain ⟨line, fields, found, -, -, published⟩ := counted.delivered answer
    refine ⟨line, found, ?_, ?_, ?_⟩
    · rw [published, get?_publish_record]
    · rw [published, get?_publish_nr]
    · rw [published, get?_publish_fnr]
  · exact step_of_not_delivered (by rw [answer]; nofun)
  · rw [deliveries_concat, answer]
    rfl
  · cases answer : next.1 with
    | delivered => rfl
    | exhausted =>
      rcases exhausted.mp answer with all | skip
      · exact absurd all (Nat.ne_of_lt more)
      · exact absurd (fresh.symm.trans skip) Bool.false_ne_true
    | refused f => exact absurd separates (not_separates_of_refused answer)
    | done => exact absurd answer step_ne_done

end PatternAction.Records
