/- NameRights/Abi/Interface
   digest: Functions and events a contract declares, and the data that calls a function. -/

import NameRights.Abi.Decode
import NameRights.Abi.Encode
import NameRights.Hashing

set_option autoImplicit false
set_option relaxedAutoImplicit false

namespace NameRights.Abi

structure Param where
  name : String
  kind : Kind
  deriving Repr

/-- A function: its inputs by name, and the types of its outputs. -/
structure Function where
  name : String
  inputs : List Param
  outputs : List Kind
  deriving Repr

/-- A value an event carries, as a topic if it is indexed, in the data otherwise. -/
structure Field where
  name : String
  kind : Kind
  isIndexed : Bool
  deriving Repr

/-- An event. The logs of an anonymous one do not start with its topic. -/
structure Event where
  name : String
  inputs : List Field
  isAnonymous : Bool
  deriving Repr

/-- All that a contract declares, overloads of one name in their order. -/
structure Interface where
  functions : List Function
  events : List Event
  deriving Repr

namespace Function

def kinds (f : Function) : List Kind := f.inputs.map Param.kind

def signature (f : Function) : String := f.name ++ "(" ++ Kind.listText f.kinds ++ ")"

/-- The signature with the types of the outputs, if there are any. -/
def fullSignature (f : Function) : String :=
  if f.outputs.isEmpty then f.signature
  else f.signature ++ ":(" ++ Kind.listText f.outputs ++ ")"

def selector (f : Function) : Selector := .ofSignature f.signature

def encodeCall (f : Function) (values : List Value) : Bytes :=
  f.selector.bytes ++ encode values

def decodeOutput (f : Function) (data : Bytes) : Except Fault (List Value) :=
  decode f.outputs data

end Function

namespace Event

def kinds (e : Event) : List Kind := e.inputs.map Field.kind

def signature (e : Event) : String := e.name ++ "(" ++ Kind.listText e.kinds ++ ")"

/-- The first topic of the event's logs, unless it is anonymous. -/
def topic (e : Event) : Hash := .topic e.signature

def indexed (e : Event) : List Field := e.inputs.filter Field.isIndexed

def unindexed (e : Event) : List Field := e.inputs.filter fun field => !field.isIndexed

end Event

namespace Interface

def overloads (i : Interface) (name : String) : List Function :=
  i.functions.filter (·.name == name)

def event? (i : Interface) (name : String) : Except Fault Event :=
  match i.events.find? (·.name == name) with
  | some event => .ok event
  | none => .error (.invalidName name)

end Interface

end NameRights.Abi
