import DirectoryQuery.CommandLine.Run

/-! The program. It reads the variables of its environment once, and then only writes out the report of
a run. No directory is attached to it, so that a search comes as far as opening the connection. -/
namespace DirectoryQuery

def detached : Directory := fun _ => .error ⟨"no directory service is attached"⟩

def readEnvironment : IO Environment := do
  let values ← Settings.variableNames.mapM fun name => do return (name, ← IO.getEnv name)
  return fun name => (values.lookup name).join

/-- An error that gets through is told on the error stream, and is the only cause of status one. -/
def CommandLine.Ending.statusAndNotice : CommandLine.Ending → UInt32 × String
  | .returned status | .exited status => (status.toUInt32, "")
  | .failed e => (1, CommandLine.line e.message)

def runProgram (arguments : List String) : IO UInt32 := do
  let report := CommandLine.run detached (← readEnvironment) arguments
  let (status, notice) := report.ending.statusAndNotice
  IO.print report.out
  IO.eprint (report.err ++ notice)
  return status

end DirectoryQuery

def main (arguments : List String) : IO UInt32 := DirectoryQuery.runProgram arguments
