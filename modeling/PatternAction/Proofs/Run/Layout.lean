import PatternAction.Proofs.Run.Composed
import PatternAction.Proofs.Script.LockstepStmt
import PatternAction.Script.Source
import PatternAction.Standard

/-!
Layout never matters.  Two texts whose tokens are of the same kinds, that is, which differ in
blanks, comments and the choice between `;` and a new line, are refused with the same message or are
scripts that are the same up to places; and scripts that are the same up to places run alike, so
that their runs differ in nothing but the places of their faults.
-/

set_option autoImplicit false
set_option relaxedAutoImplicit false

namespace PatternAction

section AnyPlatform

variable [Platform]

namespace Program

private theorem run_eq_of_unplaced {p p' : Program} (same : p.unplaced = p'.unplaced) (fuel : Nat)
    (m : Machine) :
    Run.unplacedOutcome (p.run fuel m) = Run.unplacedOutcome (p'.run fuel m) := by
  have twin (q : Program) : Twin .any (q.run fuel) (q.unplaced.run fuel) :=
    twin_run (fun _ _ => trivial) (q.asks_of_full Licence.full_any) fuel
  rw [← (twin p).outcome, ← (twin p').outcome, same]

omit [Platform] in
private theorem ofSource_ok {source : String} {tokens : List Token} {p : Program}
    (lexed : Token.tokenize source = .ok tokens) (read : ofTokens tokens = .ok p) :
    ofSource source = .ok p := by
  simp only [ofSource, lexed, read]

omit [Platform] in
private theorem ofSource_refused {source : String} {tokens : List Token} {f : ParseFault}
    (lexed : Token.tokenize source = .ok tokens) (refused : ofTokens tokens = .error (.fault f)) :
    ofSource source = .error (.fault (.parse f)) := by
  simp only [ofSource, lexed, refused]

/-- Two texts whose tokens are of the same kinds: both are refused with the same message, or both
are scripts, the same up to places, and then on all records and with every setup the two runs
leave the same state, output and globals included, and give the same status or fail for the same
cause. -/
theorem layout_irrelevant {source source' : String} {tokens tokens' : List Token}
    (lexed : Token.tokenize source = .ok tokens) (lexed' : Token.tokenize source' = .ok tokens')
    (kinds : tokens.map (·.kind) = tokens'.map (·.kind)) :
    (∃ f f', ofSource source = .error (.fault (.parse f)) ∧
      ofSource source' = .error (.fault (.parse f')) ∧ f.message = f'.message) ∨
    ∃ p p', ofSource source = .ok p ∧ ofSource source' = .ok p' ∧ p.unplaced = p'.unplaced ∧
      ∀ (fuel : Nat) (records : Records) (setup : Setup),
        Run.unplacedOutcome (p.run fuel ((Machine.ofRecords records).setUp setup)) =
          Run.unplacedOutcome (p'.run fuel ((Machine.ofRecords records).setUp setup)) := by
  rcases ofTokens_alike kinds with ⟨p, p', read, read', alike⟩ | ⟨f, f', refused, refused', same, -⟩
  · refine .inr ⟨p, p', ofSource_ok lexed read, ofSource_ok lexed' read', alike.same, ?_⟩
    intro fuel records setup
    exact run_eq_of_unplaced alike.same fuel _
  · exact .inl ⟨f, f', ofSource_refused lexed refused, ofSource_refused lexed' refused', same⟩

end Program

end AnyPlatform

namespace Program

/-- A separator written as `;` or as a new line behind a comment; the script fails at its last word,
which stands at different places. -/
theorem layout_irrelevant_comment :
    let source := "BEGIN \x7b x[1]; print x \x7d"
    let source' := "BEGIN\x7bx [1] # an array\n print x\x7d"
    ∃ tokens tokens', Token.tokenize source = .ok tokens ∧ Token.tokenize source' = .ok tokens' ∧
      tokens.map (·.kind) = tokens'.map (·.kind) ∧
      ∃ p p', ofSource source = .ok p ∧ ofSource source' = .ok p' ∧ p.unplaced = p'.unplaced ∧
        ∀ (fuel : Nat) (records : Records) (setup : Setup),
          Run.unplacedOutcome (p.run fuel ((Machine.ofRecords records).setUp setup)) =
            Run.unplacedOutcome (p'.run fuel ((Machine.ofRecords records).setUp setup)) := by
  intro source source'
  have accepted : (ofSource source).toOption.isSome = true := by decide +kernel
  have kinds : (Token.tokenize source).toOption.map (·.map (·.kind)) =
      (Token.tokenize source').toOption.map (·.map (·.kind)) ∧
        (Token.tokenize source).toOption.isSome = true := by decide +kernel
  cases lexed : Token.tokenize source with
  | error fault => simp [lexed, Except.toOption] at kinds
  | ok tokens =>
    cases lexed' : Token.tokenize source' with
    | error fault => simp [lexed, lexed', Except.toOption] at kinds
    | ok tokens' =>
      rw [lexed, lexed'] at kinds
      have same := Option.some.inj kinds.1
      rcases layout_irrelevant lexed lexed' same with ⟨f, f', refused, -⟩ | run
      · rw [refused] at accepted
        cases accepted
      · exact ⟨tokens, tokens', rfl, rfl, same, run⟩

end Program

end PatternAction
