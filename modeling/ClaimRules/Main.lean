import ClaimRules.CommandLine.Run

/-! The program: reads files and input, and prints reports. -/

open ClaimRules

def readDocument (path : String) : IO Document := do
  try
    return .content (← IO.FS.readBinFile path)
  catch _ => return .missing

def readInput : IO (Option Document) := do
  let stdin ← IO.getStdin
  if ← stdin.isTty then return none
  else return some (.content (← stdin.readBinToEnd))

def main (arguments : List String) : IO UInt32 := do
  match CommandLine.parse arguments with
  | .error refusal =>
    let report := refusal.report
    IO.print report.out
    IO.eprint report.err
    return report.exit.toUInt32
  | .ok command =>
    let files ← command.files.mapM fun path => return (path, ← readDocument path)
    let input ←
      match command with
      | .map _ _ none _ => readInput
      | _ => pure none
    let report := command.report (fun path => (files.lookup path).getD .missing) input
    IO.print report.out
    IO.eprint report.err
    return report.exit.toUInt32
