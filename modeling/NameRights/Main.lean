/- NameRights/Main
   digest: The operator's program. Its surroundings are a document on standard input. -/

import NameRights.Command.Setting

set_option autoImplicit false
set_option relaxedAutoImplicit false

namespace NameRights.Main

partial def readAll (stream : IO.FS.Stream) (read : String) : IO String := do
  let line ← stream.getLine
  if line.isEmpty then return read else readAll stream (read ++ line)

def refusal (fault : UsageFault) : String := "error: " ++ fault.reason.getD "see --help" ++ "\n"

def report (ending : Ending) : IO UInt32 := do
  match ending with
  | .refused fault =>
    (← IO.getStderr).putStr (refusal fault)
    return 1
  | .abandoned _ printed =>
    (← IO.getStdout).putStr printed
    return 101
  | .exited code printed warned _ =>
    (← IO.getStdout).putStr printed
    (← IO.getStderr).putStr warned
    return UInt32.ofNat code

end NameRights.Main

open NameRights in
def main (words : List String) : IO UInt32 := do
  match Json.parse? (← Main.readAll (← IO.getStdin) "") with
  | some document => Main.report (runProgram words (Surroundings.ofJson document))
  | none =>
    (← IO.getStderr).putStr "error: the surroundings are no document\n"
    return 1
