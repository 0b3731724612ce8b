import Keyring.Command.Run

namespace Keyring.Command

/-- The content of a file, or `none` if it cannot be read. -/
def readContent (path : String) : IO Config.Content := do
  try return some (← IO.FS.readBinFile path)
  catch _ => return none

def wording (_ : String) : String :=
  "not a duration"

def surroundings (tokens : List String) : IO Host := do
  let path := (Arguments.parse tokens).toOption.bind (·.configPath)
  let content ← match path with
    | some p => readContent p
    | none => pure none
  let overrides ← (Config.overrides wording).mapM fun o => return (o.name, ← IO.getEnv o.name)
  return {
    file := fun p => if path = some p then content else none
    environment := fun name => (overrides.lookup name).join
    wording }

end Keyring.Command

def main (tokens : List String) : IO UInt32 := do
  let report := Keyring.Command.run (← Keyring.Command.surroundings tokens) tokens
  (← IO.getStdout).putStr report.out
  (← IO.getStderr).putStr report.err
  return report.code.toUInt32
