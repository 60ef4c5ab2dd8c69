/-
  MarkupShorthand.Main
  ────────────────────
  **THE PROGRAM: READ WHAT THE ARGUMENTS NAME, CARRY THE COMMAND OUT, WRITE WHAT
  IT LEAVES.**
-/
import MarkupShorthand.Command.Outcome

namespace MarkupShorthand.Program

open Command

/-- What a path of the file system leads to. -/
def look (path : String) : IO FileContent := do
  try
    return FileContent.ofBytes (← IO.FS.readBinFile path)
  catch failure =>
    match failure with
    | .noFileOrDirectory .. => return .missing
    | _ => return .folder

/-- Carries out what the arguments ask for and answers the exit code. -/
def carryOut (arguments : List String) : IO UInt32 := do
  let contents ← (pathsRead arguments).mapM fun path => return (path, ← look path)
  let input ←
    if readsInput arguments then FileContent.ofBytes <$> (← IO.getStdin).readBinToEnd
    else pure .missing
  let outcome := run
    { read := fun path => (contents.lookup path).getD .missing
      input := input
      logFilter := ← IO.getEnv "RUST_LOG" }
    arguments
  (← IO.getStderr).putStr outcome.diagnostics
  (← IO.getStdout).putStr outcome.output
  return outcome.code.toUInt32

end MarkupShorthand.Program

/-- The program. -/
def main (arguments : List String) : IO UInt32 :=
  MarkupShorthand.Program.carryOut arguments
