/- NameRights/Command/Usage
   digest: Reading the words of a command line as options, places and the name of a subcommand. -/

set_option autoImplicit false
set_option relaxedAutoImplicit false

namespace NameRights

/-- Why the words of a command line are refused. -/
inductive UsageFault where
  | helpWanted
  | unknownArgument (word : String)
  | missingSubcommand
  | missingArgument (name : String)
  | missingValue (name : String)
  | rejectedValue (name reason : String)
  | repeatedOption (name : String)
  deriving Repr, DecidableEq

def UsageFault.reason : UsageFault → Option String
  | rejectedValue _ reason => some reason
  | _ => none

/-- A level of a command line: options that take a value, by a long name and perhaps a letter,
places for words without a name, and subcommands. -/
structure Level where
  options : List (String × Option Char)
  places : List String
  subcommands : List String
  deriving Repr

/-- What has been read on a level: the options that occurred, the values they were given, the words
in places, the option that waits for its value, and whether only words in places may follow. -/
structure Reading where
  occurred : List String
  values : List (String × String)
  placed : List String
  pending : Option String
  isTrailing : Bool
  deriving Repr

namespace Reading

def start : Reading := ⟨[], [], [], none, false⟩

def occur (name : String) (value : Option String) (r : Reading) : Reading :=
  { r with occurred := r.occurred ++ [name]
           values := r.values ++ (value.map fun v => (name, v)).toList
           pending := if value.isSome then none else some name }

def valuesOf (r : Reading) (name : String) : List String :=
  (r.values.filter fun (n, _) => n == name).map Prod.snd

end Reading

namespace Level

/-- Whether a word is marked as an option. A single hyphen is a word like any other. -/
def isMarked (word : String) : Bool := word.startsWith "-" && word != "-"

def strip (cs : List Char) : String := String.ofList (cs.dropWhile (· == '='))

def readLong (level : Level) (word : String) (r : Reading) : Except UsageFault Reading :=
  let cs := word.toList.dropWhile (· == '-')
  let name := String.ofList (cs.takeWhile (· != '='))
  let rest := cs.dropWhile (· != '=')
  if level.options.any fun (n, _) => n == name then
    .ok (r.occur name (if rest.isEmpty then none else some (strip rest)))
  else if name == "help" || name == "version" then .error .helpWanted
  else .error (.unknownArgument word)

def readShort (level : Level) (word : String) (r : Reading) : Except UsageFault Reading :=
  match word.toList.dropWhile (· == '-') with
  | [] => .error (.unknownArgument word)
  | c :: rest =>
    match level.options.find? fun (_, letter) => letter == some c with
    | some (name, _) => .ok (r.occur name (if rest.isEmpty then none else some (strip rest)))
    | none => if c == 'h' || c == 'V' then .error .helpWanted else .error (.unknownArgument word)

def place (level : Level) (word : String) (r : Reading) : Except UsageFault Reading :=
  if r.placed.length < level.places.length then .ok { r with placed := r.placed ++ [word] }
  else .error (.unknownArgument word)

/-- What comes of one word: the level goes on, or a subcommand begins. -/
def readWord (level : Level) (word : String) (r : Reading) : Except UsageFault (Option Reading) :=
  if r.isTrailing then (level.place word r).map some
  else if word == "--" then .ok (some { r with isTrailing := true })
  else if word.startsWith "--" then (level.readLong word r).map some
  else if isMarked word then (level.readShort word r).map some
  else match r.pending with
  | some name => .ok (some { r with values := r.values ++ [(name, word)], pending := none })
  | none =>
    if level.subcommands.contains word then .ok none
    else if word == "help" && !level.subcommands.isEmpty then .error .helpWanted
    else (level.place word r).map some

/-- Reads words up to the name of a subcommand, which is returned with the words after it. -/
def read (level : Level) (r : Reading) :
    List String → Except UsageFault (Reading × Option (String × List String))
  | [] => .ok (r, none)
  | word :: words => do
    match ← level.readWord word r with
    | some r => level.read r words
    | none => return (r, some (word, words))

/-- All places have to be taken, and the last option must not wait for its value. -/
def checkComplete (level : Level) (r : Reading) : Except UsageFault Unit :=
  match level.places.drop r.placed.length with
  | name :: _ => .error (.missingArgument name)
  | [] =>
    match r.pending with
    | some name => if (r.valuesOf name).isEmpty then .error (.missingValue name) else .ok ()
    | none => .ok ()

end Level

namespace Reading

/-- Reads a value, and rejects it for the reason its type gives. -/
def typed {α ε : Type} (parse : String → Except ε α) (message : ε → String) (name word : String) :
    Except UsageFault α :=
  (parse word).mapError fun e => .rejectedValue name (message e)

/-- Reads all values of an option and returns the first. It may occur once, with a value. -/
def option? {α : Type} (r : Reading) (name : String)
    (parse : String → String → Except UsageFault α) : Except UsageFault (Option α) := do
  match ← (r.valuesOf name).mapM (parse name) with
  | [] => if r.occurred.contains name then .error (.missingValue name) else return none
  | a :: _ => if r.occurred.count name > 1 then .error (.repeatedOption name) else return some a

def place {α : Type} (r : Reading) (index : Nat) (name : String)
    (parse : String → String → Except UsageFault α) : Except UsageFault α :=
  match r.placed[index]? with
  | some word => parse name word
  | none => .error (.missingArgument name)

end Reading

end NameRights
