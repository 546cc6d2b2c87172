import PatternAction.Main
import PatternAction.Proofs.Record.Delivery
import PatternAction.Proofs.Run.ArrayBindings
import PatternAction.Proofs.Run.Arrays
import PatternAction.Proofs.Run.Cached
import PatternAction.Proofs.Run.Fields
import PatternAction.Proofs.Run.Frames
import PatternAction.Proofs.Run.Layout
import PatternAction.Proofs.Run.Locals
import PatternAction.Proofs.Script.Derivation
import PatternAction.Proofs.Script.Progress
import PatternAction.Proofs.Script.RoundTrip
import PatternAction.Proofs.Token.Cut
import PatternAction.Proofs.Run.Course
import PatternAction.Proofs.Run.Operands
import PatternAction.Proofs.Run.Termination
import PatternAction.Proofs.Number.Readers
import PatternAction.Proofs.Run.Advance
import PatternAction.Proofs.Run.Fuel
import PatternAction.Proofs.Run.Loops
import PatternAction.Proofs.Run.Quiet
import PatternAction.Proofs.Run.Update
import PatternAction.Proofs.Number.Grammar
import PatternAction.Proofs.Number.Order
import PatternAction.Proofs.Run.Elements
import PatternAction.Proofs.Run.Reading
import PatternAction.Proofs.Record.Splitting
import PatternAction.Proofs.Run.Counting
import PatternAction.Proofs.Run.Rereading
import PatternAction.Proofs.Builtin.Calls
import PatternAction.Proofs.Record.Lines
import PatternAction.Proofs.Builtin.Occurrence
import PatternAction.Proofs.Builtin.Split
import PatternAction.Proofs.Printf.Integers
import PatternAction.Proofs.Run.Jumps
import PatternAction.Proofs.Token.Respelled
import PatternAction.Proofs.CommandLine.Arguments
import PatternAction.Proofs.Run.Snapshot
import PatternAction.Proofs.Script.PrintForms
import PatternAction.Proofs.Script.Moves
import PatternAction.Proofs.Script.Places
import PatternAction.Proofs.Printf.Zeros
