/- NameRights/Error
   digest: What can go wrong between a contract client and its node, and the wording of it. -/

import NameRights.Abi.Decode
import NameRights.Json.Writer
import NameRights.Text.Quoted

set_option autoImplicit false
set_option relaxedAutoImplicit false

namespace NameRights

namespace Json

def Number.shown : Number → String
  | .whole i => "Number(" ++ toString i ++ ")"
  | .decimal negative digits exponent =>
    let sign := if negative then "-" else ""
    let ds := toString digits
    let body :=
      if exponent ≥ 0 then ds ++ String.ofList (List.replicate exponent.toNat '0') ++ ".0"
      else
        let places := (-exponent).toNat
        let padded := List.replicate (places + 1 - ds.length) '0' ++ ds.toList
        let front := padded.take (padded.length - places)
        let back := ((padded.drop (padded.length - places)).reverse.dropWhile (· == '0')).reverse
        String.ofList front ++ "." ++ (if back.isEmpty then "0" else String.ofList back)
    "Number(" ++ sign ++ body ++ ")"

mutual

def shown : Json → String
  | .null => "Null"
  | .bool true => "Bool(true)"
  | .bool false => "Bool(false)"
  | .number n => n.shown
  | .text s => "String(" ++ Text.quoted s ++ ")"
  | .list items => "Array [" ++ shownItems items ++ "]"
  | .record fields => "Object \x7b" ++ shownFields fields ++ "\x7d"

def shownItems : List Json → String
  | [] => ""
  | [item] => item.shown
  | item :: items => item.shown ++ ", " ++ shownItems items

def shownFields : List (String × Json) → String
  | [] => ""
  | [(name, value)] => Text.quoted name ++ ": " ++ value.shown
  | (name, value) :: fields =>
    Text.quoted name ++ ": " ++ value.shown ++ ", " ++ shownFields fields

end

end Json

/-- A failure that a node answers a request with. -/
structure RpcError where
  code : Int
  message : String
  data : Option Json
  deriving Repr

def RpcError.codeName (code : Int) : String :=
  if code = -32700 then "ParseError"
  else if code = -32600 then "InvalidRequest"
  else if code = -32601 then "MethodNotFound"
  else if code = -32602 then "InvalidParams"
  else if code = -32603 then "InternalError"
  else "ServerError(" ++ toString code ++ ")"

def RpcError.shown (e : RpcError) : String :=
  let data := match e.data with
    | none => "None"
    | some j => "Some(" ++ j.shown ++ ")"
  "Error \x7b code: " ++ codeName e.code ++ ", message: " ++ Text.quoted e.message ++
    ", data: " ++ data ++ " \x7d"

/-- What can go wrong on the way to a node and back. -/
inductive NodeError where
  | unreachable
  | undecodable
  | invalidResponse (text : String)
  | transportCode (code : Nat)
  | transportMessage (text : String)
  | rpc (error : RpcError)
  | internal
  deriving Repr

def NodeError.message : NodeError → String
  | .unreachable => "Server is unreachable"
  | .undecodable => "Decoder error: the answer has another form"
  | .invalidResponse text => "Got invalid response: " ++ text
  | .transportCode code => "code " ++ toString code
  | .transportMessage text => text
  | .rpc e => "RPC error: " ++ e.shown
  | .internal => "Internal Web3 error"

/-- What can go wrong between an answer and the type expected of it. -/
inductive ChainError where
  | invalidOutput (text : String)
  | unsupported
  | api (error : NodeError)
  deriving Repr

def ChainError.message : ChainError → String
  | .invalidOutput text => "Invalid output type: " ++ text
  | .unsupported => "InterfaceUnsupported"
  | .api e => "Api error: " ++ e.message

/-- What can go wrong with a call, a transaction or a log feed. -/
inductive ContractError where
  | abi (fault : Abi.Fault)
  | node (error : NodeError)
  | chain (error : ChainError)
  | unknownFunction (name : String)
  | sinkClosed
  deriving Repr

def ContractError.message : ContractError → String
  | .abi fault => "ABI error: `" ++ fault.message ++ "`"
  | .node e => "Blockchain error: `" ++ e.message ++ "`"
  | .chain e => "Blockchain error: `" ++ e.message ++ "`"
  | .unknownFunction name => "No overload of `" ++ name ++ "` accepts the given arguments"
  | .sinkClosed => "Event sink closed"

def Abi.Fault.loadingMessage (fault : Abi.Fault) : String :=
  "ABI parsing error: `" ++ fault.message ++ "`"

end NameRights
