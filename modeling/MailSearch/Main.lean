import MailSearch.Program
import MailSearch.Store.Planned
import MailSearch.Value.Payload

/-! The command line: messages are read from standard input, one JSON object a line, and written to
standard output with their search fields; log lines go to standard error. -/

open MailSearch

/-- The lines of a stream up to its end. -/
partial def readLines (input : IO.FS.Stream) (lines : List String) : IO (List String) := do
  let line ← input.getLine
  if line.isEmpty then return lines.reverse else readLines input (line :: lines)

/-- The settings that the environment holds, under names in capitals. -/
def readEnvironment : IO Environment := do
  let found ← Settings.variableNames.filterMapM fun name => do
    return (← IO.getEnv name).map fun value => (name, value)
  return .ofVariables found

def main : IO UInt32 := do
  let environment ← readEnvironment
  let lines ← readLines (← IO.getStdin) []
  let (outcome, memory) := ({} : Memory).insert Collections.messages
    (Value.distinguished (lines.filterMap Json.read?))
  let ending := Program.run environment ({ memory } : PlannedStore)
  let output ← IO.getStdout
  let journal ← IO.getStderr
  for line in ending.lines do
    journal.putStrLn line
  for document in (ending.store.memory.collection Collections.messages).documents do
    output.putStrLn (Json.write (.object document))
  match outcome, ending.failure with
  | .ok (), none => return 0
  | .error failure, _ | .ok (), some failure =>
    journal.putStrLn (failure.message?.getD "failed")
    return 1
