/- NameRights/Command/Task
   digest: Programs of an operator: what they know, what they do, and how they fail. -/

import NameRights.Client
import NameRights.Key.Ring
import NameRights.Node.Script

set_option autoImplicit false
set_option relaxedAutoImplicit false

namespace NameRights

/-- What an operator's programs know: the contracts, the key directory, the account to sign for,
the password file, what is typed at a prompt, the poll interval in milliseconds, and the terminal
to ask for a password. -/
structure Context where
  registry : Option Address
  privilege : Option Address
  keys : Option KeyDirectory
  account : Option Address
  password : Option PasswordFile
  typed : Bytes
  pollInterval : Nat
  terminal : Terminal := .absent

/-- Why a command failed. -/
inductive CommandFault where
  | registryMissing
  | privilegeMissing
  | bothMissing
  | keysMissing
  | key (reason : String)
  | contract (error : ContractError)
  | outOfRange (privilegeId total : Word)
  | notAvailable (name : String)
  | registering (error : ContractError)
  | assigning (error : ContractError)
  | readingRegistrations (error : ContractError)
  | readingAssignments (error : ContractError)
  | watchFailed
  deriving Repr

def CommandFault.message : CommandFault → String
  | registryMissing => "--registry-address is required"
  | privilegeMissing => "--privilege-address is required"
  | bothMissing => "--registry-address or --privilege-address is required"
  | keysMissing => "--keystore-path is required"
  | key reason => reason
  | contract e => e.message
  | outOfRange id total =>
    "Privilege id " ++ id.decimal ++ " out of range, tokens carry " ++ total.decimal
  | notAvailable name => "Name `" ++ name ++ "` is not available"
  | registering e => "Error registering name: " ++ e.message
  | assigning e => "Error setting privilege: " ++ e.message
  | readingRegistrations e => "Error reading registrations: " ++ e.message
  | readingAssignments e => "Error reading privilege assignments: " ++ e.message
  | watchFailed => "Event watch failed"

/-- What a command does that can be seen: it prints a text, warns with one, or asks the node. -/
inductive Act where
  | print (text : String)
  | warn (text : String)
  | send (request : Request)
  deriving Repr

abbrev Act.Answer : Act → Type
  | .print _ => Unit
  | .warn _ => Unit
  | .send _ => Reply

abbrev Task (α : Type) := Session Act Act.Answer CommandFault α

namespace Task

def print (text : String) : Task Unit := .ask (.print text) fun () => .done (.ok ())

def say (line : String) : Task Unit := print (line ++ "\n")

/-- Asks the node as a client does, and words a failure as the command's. -/
def chain {α : Type} (fault : ContractError → CommandFault) (d : Dialogue α) : Task α :=
  ((Node.serve d).refine fun request => Session.query (Act.send request)).mapError fault

def required {α : Type} (fault : CommandFault) : Option α → Task α
  | some a => pure a
  | none => Session.fail fault

def signer (context : Context) : Task SecretKey := do
  let keys ← required .keysMissing context.keys
  let (shown, key) := keys.unlock context.account context.password context.typed context.terminal
  print shown
  Session.ofOutcome (key.mapError .key)

end Task

/-- What came of a command: what it printed, what it warned of, what it asked the node, and how it
ended. -/
structure Performance where
  printed : String
  warned : String
  requests : List Request
  result : Outcome CommandFault Unit

def Performance.ofActs (acts : List Act) (result : Outcome CommandFault Unit) : Performance where
  printed := String.join <|
    acts.filterMap fun act => match act with | .print text => some text | _ => none
  warned := String.join <|
    acts.filterMap fun act => match act with | .warn text => some text | _ => none
  requests := acts.filterMap fun act => match act with | .send r => some r | _ => none
  result := result

namespace Task

/-- The answer to an act, where the node's answers are prepared. -/
def answer : (act : Act) → Script → act.Answer × Script
  | .print _, script => ((), script)
  | .warn _, script => ((), script)
  | .send request, script => Script.reply request script

def perform (task : Task Unit) (script : Script) : Performance :=
  let (acts, result, _) := task.run answer script
  .ofActs acts result

end Task

end NameRights
