import EntityQuery.CommandLine.Run

/-!
# The program

Reads a command from the arguments and runs it on the files and streams of the
process.  The response goes to the standard output, and the events and the
complaint, if there is one, go to the standard error.
-/

namespace EntityQuery

/-- The text of bytes in UTF-8. -/
def decodeText (bytes : ByteArray) : Except String String :=
  match String.fromUTF8? bytes with
  | some s => .ok s
  | none => .error "stream did not contain valid UTF-8"

/-- The files and the input of the process. -/
def processHost : Host IO where
  fileText path := do
    try
      return decodeText (← IO.FS.readBinFile path)
    catch e => return .error (toString e)
  inputText := do
    try
      return decodeText (← (← IO.getStdin).readBinToEnd)
    catch e => return .error (toString e)

/-- Writes the outcome of a command that took the given time. -/
def showOutcome (outcome : Outcome) (elapsed : Nat) : IO Unit := do
  for entry in outcome.events do
    IO.eprintln (entry.text (toString elapsed))
  IO.print outcome.output
  (← IO.getStdout).flush
  match outcome.complaint with
  | some complaint => IO.eprintln complaint
  | none => pure ()

end EntityQuery

/-- Runs the command that the arguments ask for. -/
def main (args : List String) : IO UInt32 := do
  let start ← IO.monoMsNow
  let outcome ← (EntityQuery.Command.read args).run EntityQuery.processHost
  let finish ← IO.monoMsNow
  EntityQuery.showOutcome outcome (finish - start)
  return outcome.exitCode.toUInt32
