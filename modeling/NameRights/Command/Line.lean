/- NameRights/Command/Line
   digest: The options and subcommands of the operator's program. -/

import NameRights.Command.Argument
import NameRights.Command.Basic
import NameRights.Command.Usage

set_option autoImplicit false
set_option relaxedAutoImplicit false

namespace NameRights

/-- What a command line says: the node's address on the network, the contracts, the key directory,
the account, the password file, the poll interval in seconds, what to log, and the subcommand. -/
structure CommandLine where
  endpoint : String
  registry : Option Address
  privilege : Option Address
  keystorePath : Option String
  account : Option Address
  passwordFile : Option String
  pollInterval : Count
  logFilter : String
  command : Subcommand
  deriving Repr

namespace CommandLine

def outerLevel : Level where
  options := [("eth-rpc-endpoint", none), ("registry-address", none), ("privilege-address", none),
    ("keystore-path", some 'k'), ("address", some 'a'), ("password-file", none),
    ("poll-interval", none), ("log-filter", none)]
  places := []
  subcommands :=
    ["name-info", "privilege-info", "register", "set-privilege", "events", "watch"]

def address (name word : String) : Except UsageFault Address :=
  Reading.typed Address.parse AddressFault.message name word

def number (name word : String) : Except UsageFault Word :=
  Reading.typed Word.parse NumberFault.message name word

def count (name word : String) : Except UsageFault Count :=
  Reading.typed Count.parse CountFault.message name word

def text (_name word : String) : Except UsageFault String := .ok word

def readLevel (level : Level) (words : List String) : Except UsageFault Reading := do
  let (r, _) ← level.read .start words
  level.checkComplete r
  return r

def nameInfo (words : List String) : Except UsageFault Subcommand := do
  let r ← readLevel ⟨[], ["name"], []⟩ words
  return .nameInfo (← r.place 0 "name" text)

def privilegeInfo (words : List String) : Except UsageFault Subcommand := do
  let r ← readLevel ⟨[("user", none)], ["token-id", "privilege-id"], []⟩ words
  let tokenId ← r.place 0 "token-id" number
  let privilegeId ← r.place 1 "privilege-id" number
  return .privilegeInfo tokenId privilegeId (← r.option? "user" address)

def register (words : List String) : Except UsageFault Subcommand := do
  let r ← readLevel ⟨[], ["name", "owner", "duration"], []⟩ words
  let name ← r.place 0 "name" text
  let owner ← r.place 1 "owner" address
  return .register name owner (← r.place 2 "duration" number)

def setPrivilege (words : List String) : Except UsageFault Subcommand := do
  let r ← readLevel ⟨[], ["token-id", "privilege-id", "user", "expires"], []⟩ words
  let tokenId ← r.place 0 "token-id" number
  let privilegeId ← r.place 1 "privilege-id" number
  let user ← r.place 2 "user" address
  return .setPrivilege tokenId privilegeId user (← r.place 3 "expires" number)

def events (words : List String) : Except UsageFault Subcommand := do
  let r ← readLevel ⟨[("from-block", none), ("to-block", none)], [], []⟩ words
  let fromBlock ← r.option? "from-block" count
  return .events ⟨fromBlock, ← r.option? "to-block" count⟩

def watch (words : List String) : Except UsageFault Subcommand := do
  let r ← readLevel ⟨[("from-block", none)], [], []⟩ words
  return .watch (← r.option? "from-block" count)

def subcommand (name : String) (words : List String) : Except UsageFault Subcommand :=
  match name with
  | "name-info" => nameInfo words
  | "privilege-info" => privilegeInfo words
  | "register" => register words
  | "set-privilege" => setPrivilege words
  | "events" => events words
  | "watch" => watch words
  | _ => .error (.unknownArgument name)

/-- Reads a command line. A subcommand is needed before anything is checked; its own words are
checked before the options in front of it. -/
def parse (words : List String) : Except UsageFault CommandLine := do
  match ← outerLevel.read .start words with
  | (_, none) => .error .missingSubcommand
  | (r, some (name, words)) =>
    let command ← subcommand name words
    if !r.occurred.contains "eth-rpc-endpoint" then .error (.missingArgument "eth-rpc-endpoint")
    else
      let endpoint ← r.option? "eth-rpc-endpoint" text
      let registry ← r.option? "registry-address" address
      let privilege ← r.option? "privilege-address" address
      let keystorePath ← r.option? "keystore-path" text
      let account ← r.option? "address" address
      let passwordFile ← r.option? "password-file" text
      let pollInterval ← r.option? "poll-interval" count
      let logFilter ← r.option? "log-filter" text
      return { endpoint := endpoint.getD "", registry, privilege, keystorePath, account,
               passwordFile, pollInterval := pollInterval.getD 2,
               logFilter := logFilter.getD "info", command }

def help : String := String.join <| List.map (· ++ "\n")
  ["DCN Ops 0.0.1",
   "",
   "USAGE:",
   "    dcn-oracle [OPTIONS] --eth-rpc-endpoint <eth-rpc-endpoint> <SUBCOMMAND>",
   "",
   "FLAGS:",
   "    -h, --help       Prints help information",
   "    -V, --version    Prints version information",
   "",
   "OPTIONS:",
   "    -a, --address <address>                        Account signing transactions. Prompted for when omitted",
   "        --eth-rpc-endpoint <eth-rpc-endpoint>      Specify the RPC endpoint to interact with",
   "    -k, --keystore-path <keystore-path>            Directory holding the keystore files used to sign transactions",
   "        --log-filter <log-filter>                  Log filter directives, `RUST_LOG` style [default: info]",
   "        --password-file <password-file>            ",
   "        --poll-interval <poll-interval>            Seconds between two polls of a watched log filter [default: 2]",
   "        --privilege-address <privilege-address>    Address of the MultiPrivilege contract",
   "        --registry-address <registry-address>      Address of the DcnRegistry contract",
   "",
   "SUBCOMMANDS:",
   "    events            Lists past registrations and privilege assignments",
   "    help              Prints this message or the help of the given subcommand(s)",
   "    name-info         Shows owner, expiry and availability of a name",
   "    privilege-info    Shows the holder of a privilege slot",
   "    register          Registers a name. The signing account must be a registrar",
   "    set-privilege     Assigns a privilege slot of a token until `expires`",
   "    watch             Prints token transfers of the configured contracts as they happen"]

end CommandLine

end NameRights
