/- NameRights/Command/Program
   digest: The operator's program as a whole, from its command line to its exit code. -/

import NameRights.Command.Line
import NameRights.Node.Endpoint

set_option autoImplicit false
set_option relaxedAutoImplicit false

namespace NameRights

/-- What a program finds where it is run: key directories and password files by their paths, what
is typed at its prompts, a node whose answers are prepared, and the terminal of the process. -/
structure Surroundings where
  keyDirectory : String → KeyDirectory
  passwordFile : String → PasswordFile
  typed : Bytes
  script : Script
  terminal : Terminal := .absent

/-- How a program ends: its command line is refused, or no subcommand is given, or it is abandoned,
or it has an exit code. What it printed and asked goes with it. -/
inductive Ending where
  | refused (fault : UsageFault)
  | abandoned (reason : Abort) (printed : String)
  | exited (code : Nat) (printed warned : String) (requests : List Request)

namespace CommandLine

def context (line : CommandLine) (around : Surroundings) : Context where
  registry := line.registry
  privilege := line.privilege
  keys := line.keystorePath.map around.keyDirectory
  account := line.account
  password := line.passwordFile.map around.passwordFile
  typed := around.typed
  pollInterval := line.pollInterval.toNat * 1000
  terminal := around.terminal

def run (line : CommandLine) (around : Surroundings) : Ending :=
  match Endpoint.check line.endpoint with
  | .error e =>
    .exited 1 "" ("Could not connect to ETH's RPC endpoint: " ++ e.message ++ "\n") []
  | .ok () =>
    let p := line.command.perform (line.context around) around.script
    match p.result with
    | .ok () => .exited 0 p.printed p.warned p.requests
    | .error e => .exited 1 p.printed (p.warned ++ e.message ++ "\n") p.requests
    | .aborted reason => .abandoned reason p.printed

end CommandLine

/-- Runs the program. Without a subcommand it prints how to use it. -/
def runProgram (words : List String) (around : Surroundings) : Ending :=
  match CommandLine.parse words with
  | .error .missingSubcommand => .exited 1 "" CommandLine.help []
  | .error fault => .refused fault
  | .ok line => line.run around

end NameRights
