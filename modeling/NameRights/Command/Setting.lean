/- NameRights/Command/Setting
   digest: The surroundings of a program as a document. -/

import NameRights.Command.Program

set_option autoImplicit false
set_option relaxedAutoImplicit false

namespace NameRights

/-- Reads a prepared answer: a `result`, an `error` of the node, or a `status` of the way to it. With
none of them the operator interrupts. It comes after a `delay` in milliseconds. -/
def Prepared.ofJson (j : Json) : Prepared where
  reply :=
    match j.field? "result", j.field? "error", j.field? "status" with
    | some result, _, _ => some (.ok result)
    | none, some e, _ =>
      some (.error (.rpc ⟨((e.field "code").int?).getD 0, ((e.field "message").text?).getD "",
        e.field? "data"⟩))
    | none, none, some code => some (.error (.transportCode (code.nat?.getD 0)))
    | none, none, none => none
  delay := ((j.field "delay").nat?).getD 0
  isStanding := ((j.field "standing").bool?).getD false

/-- Reads the queues of a node. An empty queue answers with the status 404. -/
def Script.ofJson (j : Json) : Script where
  queues :=
    match j with
    | .record fields => fields.map fun (name, queue) =>
      (name, (queue.list?.getD []).map Prepared.ofJson)
    | _ => []
  otherwise := fun _ => ⟨some (.error (.transportCode 404)), 0, false⟩

/-- Reads an entry of a key directory: the text of a file, or `null` for a directory. -/
def Entry.ofJson : Json → Entry
  | .text content => .file (Text.utf8 content)
  | _ => .directory

/-- Reads key directories and password files by path, the text typed at prompts, the node, and the
password typed at the terminal, if there is one. -/
def Surroundings.ofJson (j : Json) : Surroundings where
  keyDirectory path := ⟨path,
    match (j.field "keys").field? path with
    | some (.record fields) => some (fields.map fun (name, entry) => (name, Entry.ofJson entry))
    | _ => none⟩
  passwordFile path := ((j.field "passwords").field path).text?.map Text.utf8
  typed := Text.utf8 (((j.field "typed").text?).getD "")
  script := Script.ofJson (j.field "node")
  terminal := match (j.field "terminal").text? with
    | some word => fun _ => .ok word
    | none => .absent

end NameRights
