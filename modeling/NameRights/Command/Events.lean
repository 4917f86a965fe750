/- NameRights/Command/Events
   digest: Listing past registrations and privilege assignments. -/

import NameRights.Client.Logs
import NameRights.Command.Task
import NameRights.Feed.Rehearsal

set_option autoImplicit false
set_option relaxedAutoImplicit false

namespace NameRights

namespace Cursor.Rehearsal

variable {kind : EventKind}

/-- The records a cursor gives until it gives no more, `fuel` at most, and the cursor after that. -/
def readAll : Nat → Rehearsal kind → List kind.Record × Cursor kind
  | 0, r => ([], r.cursor)
  | fuel + 1, r =>
    match r.next none with
    | (some true, r) =>
      let (records, cursor) := readAll fuel r
      (r.cursor.current.toList ++ records, cursor)
    | (_, r) => ([], r.cursor)

end Cursor.Rehearsal

/-- The records of logs up to the first that is none, and why that one is none. -/
def EventKind.readLogs (kind : EventKind) (event : Abi.Event) (logs : List Log) :
    List kind.Record × Option ContractError :=
  let (producer, feed) := Feed.replaying logs
  let (records, cursor) := Cursor.Rehearsal.readAll (logs.length + 1)
    (⟨producer, .start event feed⟩ : Cursor.Rehearsal kind)
  (records, cursor.failure)

namespace Command

def blockText : Option Count → String
  | none => "None"
  | some n => "Some(" ++ toString n.toNat ++ ")"

def registrationLine (r : NameRegistered) : String :=
  "NameRegistered name=" ++ r.name ++ " owner=" ++ r.owner.hex ++ " expires=" ++ r.expires.decimal ++
    " block=" ++ blockText r.raw.blockNumber

def assignmentLine (r : PrivilegeAssigned) : String :=
  "PrivilegeAssigned token=" ++ r.tokenId.decimal ++ " privilege=" ++ r.privilegeId.decimal ++
    " user=" ++ r.user.hex ++ " expires=" ++ r.expires.decimal ++ " block=" ++
    blockText r.raw.blockNumber

def sayAll : List String → Task Unit
  | [] => pure ()
  | line :: lines => do
    Task.say line
    sayAll lines

/-- Lists the records of an event that a search finds, up to the first log that is none. -/
def list (kind : EventKind) (search : Dialogue (Abi.Event × List Log))
    (line : kind.Record → String) (fault : ContractError → CommandFault) : Task Unit := do
  let (event, logs) ← Task.chain .contract search
  let (records, failure) := kind.readLogs event logs
  sayAll (records.map line)
  match failure with
  | none => pure ()
  | some e => Session.fail (fault e)

def registrations (context : Context) (range : BlockRange) : Task Unit :=
  match context.registry with
  | none => pure ()
  | some address =>
    list .nameRegistered (Registry.filter address (.nameRegistered [] []) range) registrationLine
      .readingRegistrations

def assignments (context : Context) (range : BlockRange) : Task Unit :=
  match context.privilege with
  | none => pure ()
  | some address =>
    list .privilegeAssigned (Privilege.filter address (.privilegeAssigned [] [] []) range)
      assignmentLine .readingAssignments

/-- Lists registrations and then assignments in a range of blocks. -/
def events (context : Context) (range : BlockRange) : Task Unit :=
  if context.registry.isNone && context.privilege.isNone then Session.fail .bothMissing
  else do
    registrations context range
    assignments context range

end Command

end NameRights
