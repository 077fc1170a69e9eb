import FactGrammar.CommandLine.Run

namespace FactGrammar.CommandLine

/-- The bytes of a file, none where it cannot be read. -/
def readFileBytes (path : String) : IO (Option ByteArray) := do
  try
    return some (← IO.FS.readBinFile path)
  catch _ =>
    return none

def readStandardInput : IO ByteArray := do
  (← IO.getStdin).readBinToEnd

def systemWorld : World IO where
  readFile := readFileBytes
  readStandardInput := readStandardInput

end FactGrammar.CommandLine

def main (arguments : List String) : IO UInt32 := do
  let outcome ← FactGrammar.CommandLine.run FactGrammar.CommandLine.systemWorld arguments
  IO.print outcome.stdout
  match outcome.failure with
  | some failure => IO.eprintln ("Error: " ++ failure.message)
  | none => if outcome.code ≠ 0 then IO.eprint FactGrammar.CommandLine.helpText
  return outcome.code.toUInt32
