import PatternAction.CommandLine
import PatternAction.Standard

/-!
The command on a real terminal and real files.
-/

set_option autoImplicit false
set_option relaxedAutoImplicit false

namespace PatternAction.Main

/-- The fault behind a failed attempt to read.  Only a fault on opening names the file. -/
def faultOf : IO.Error → FileFault
  | .noFileOrDirectory .. => .missing
  | .permissionDenied .. => .denied
  | .inappropriateType (some _) .. => .notDirectory
  | .inappropriateType none .. => .directory
  | e => .other (toString e)

def decode (bytes : ByteArray) : Except FileFault String :=
  match String.fromUTF8? bytes with
  | some text => .ok text
  | none => .error .notText

/-- The bytes that a stream still has, behind those already taken. -/
partial def drain (stream : IO.FS.Stream) (taken : ByteArray) : IO ByteArray := do
  let more ← stream.read 65536
  if more.isEmpty then return taken else drain stream (taken ++ more)

def attempt (answer : IO (Except FileFault String)) : IO (Except FileFault String) := do
  try answer catch e => return .error (faultOf e)

def hold {α : Type} : Dialogue α → IO α
  | .done a => return a
  | .readFile path next => do
    hold (next (← attempt do return decode (← IO.FS.readBinFile path)))
  | .readLine next => do
    hold (next (← attempt do return .ok (← (← IO.getStdin).getLine)))
  | .readInput next => do
    hold (next (← attempt do return decode (← drain (← IO.getStdin) .empty)))
  | .tell text next => do
    let stderr ← IO.getStderr
    stderr.putStr text
    stderr.flush
    hold next

def fuel : Nat := 1000000000000000000

end PatternAction.Main

open PatternAction in
def main (args : List String) : IO UInt32 := do
  let outcome ← Main.hold (CommandLine.run Main.fuel args)
  let stdout ← IO.getStdout
  stdout.putStr outcome.output
  stdout.flush
  if let some failure := outcome.failure then
    (← IO.getStderr).putStr failure.complaint
  return (outcome.status % 256).toNat.toUInt32
