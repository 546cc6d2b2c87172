/-!
Commands as dialogues: what a command asks of its surroundings, one question at a time, and what it
does with each answer.  A dialogue can be held with a real terminal and real files, or played
against given texts.
-/

set_option autoImplicit false
set_option relaxedAutoImplicit false

namespace PatternAction

inductive FileFault where
  | missing
  | denied
  | notDirectory
  | directory
  | notText
  | other (message : String)
deriving DecidableEq, Repr

namespace FileFault

def message : FileFault → String
  | .missing => "No such file or directory (os error 2)"
  | .denied => "Permission denied (os error 13)"
  | .notDirectory => "Not a directory (os error 20)"
  | .directory => "Is a directory (os error 21)"
  | .notText => "stream did not contain valid UTF-8"
  | .other message => message

/-- Whether the fault shows only when the text is read, and not yet when the file is opened. -/
def isLate : FileFault → Bool
  | .directory | .notText => true
  | .missing | .denied | .notDirectory | .other _ => false

end FileFault

inductive Dialogue (α : Type) where
  | done (result : α)
  /-- Ask for the text of a file. -/
  | readFile (path : String) (next : Except FileFault String → Dialogue α)
  /-- Ask for a line of input, with its end; there is none at the end of the input. -/
  | readLine (next : Except FileFault String → Dialogue α)
  /-- Ask for all input that is left. -/
  | readInput (next : Except FileFault String → Dialogue α)
  /-- Show a text to the user, apart from the output. -/
  | tell (text : String) (next : Dialogue α)

namespace Dialogue

variable {α β : Type}

def bind : Dialogue α → (α → Dialogue β) → Dialogue β
  | .done a, f => f a
  | .readFile path next, f => .readFile path fun r => (next r).bind f
  | .readLine next, f => .readLine fun r => (next r).bind f
  | .readInput next, f => .readInput fun r => (next r).bind f
  | .tell text next, f => .tell text (next.bind f)

instance : Monad Dialogue where
  pure := .done
  bind := bind

/-! ## Given texts -/

/-- Texts that answer the questions of a dialogue. -/
structure Site where
  files : String → Except FileFault String
  input : List Char

/-- The first line of a text with its end, and what follows it. -/
def splitLine : List Char → List Char × List Char
  | [] => ([], [])
  | c :: cs =>
    if c = '\n' then ([c], cs)
    else
      let (line, rest) := splitLine cs
      (c :: line, rest)

/-- The result of a dialogue and all that it showed to the user. -/
def play : Dialogue α → Site → α × String
  | .done a, _ => (a, "")
  | .readFile path next, s => (next (s.files path)).play s
  | .readLine next, s =>
    let (line, rest) := splitLine s.input
    (next (.ok (String.ofList line))).play { s with input := rest }
  | .readInput next, s => (next (.ok (String.ofList s.input))).play { s with input := [] }
  | .tell text next, s =>
    let (a, told) := next.play s
    (a, text ++ told)

end Dialogue

end PatternAction
