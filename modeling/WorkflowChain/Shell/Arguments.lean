import WorkflowChain.Compile.Settings

/-! # Command lines

A command line names a command, its options and its operands. An option has a long name and may have
a letter; letters can be written together. The value of an option follows it, or is attached to it,
with or without an equals sign after a letter. Each option may be given once. After two dashes
everything is an operand.

The arguments are checked one after the other, up to a request for help: what is wrong before it is
refused, and what is wrong or missing after it is not noticed.
-/

namespace WorkflowChain.Shell

/-- Why a command line is not carried out. -/
inductive Refusal where
  /-- It is not accepted. -/
  | usage
  /-- It asks for help. -/
  | help
  deriving DecidableEq, Repr

/-- What the value of an option has to be. -/
inductive ValueKind where
  | text
  /-- A path, which is not empty. -/
  | path
  /-- A count of at most 64 bits. -/
  | count
  deriving DecidableEq, Repr

/-- The count of at most 64 bits that a text stands for; a plus sign may come first. -/
def count? (text : String) : Option Nat :=
  let digits := match text.toList with
    | '+' :: rest => rest
    | all => all
  if digits.isEmpty || !digits.all Char.isDigit then none
  else
    let count := digits.foldl (fun sum c => sum * 10 + (c.toNat - '0'.toNat)) 0
    if count < 0x10000000000000000 then some count else none

/-- Whether a text can be a value of a kind. -/
def ValueKind.admits : ValueKind → String → Bool
  | .text, _ => true
  | .path, value => !value.isEmpty
  | .count, value => (count? value).isSome

/-- An option of a command. -/
structure Switch where
  name : String
  letter : Option Char
  /-- The kind of the value, if the option takes one. -/
  value : Option ValueKind
  deriving DecidableEq, Repr

/-- What was read of a command line: options with their values, and operands. -/
structure Reading where
  values : Table String := []
  operands : List String := []
  deriving DecidableEq, Repr

namespace Reading

/-- Take an option with its value; one without a value gets an empty one. -/
def add (reading : Reading) (switch : Switch) (value : String) : Except Refusal Reading :=
  if switch.name = "help" then .error .help
  else if (reading.values.lookup switch.name).isSome then .error .usage
  else if switch.value.all (·.admits value) then
    .ok { reading with values := reading.values.put switch.name value }
  else .error .usage

/-- Take an operand, of which there may be only so many if a limit is given. -/
def addOperand (limit : Option Nat) (reading : Reading) (operand : String) :
    Except Refusal Reading :=
  if limit.all (reading.operands.length < ·) then
    .ok { reading with operands := reading.operands ++ [operand] }
  else .error .usage

end Reading

/-- Whether an argument is written as an option. -/
def isOption (argument : String) : Bool :=
  match argument.toList with
  | '-' :: _ :: _ => true
  | _ => false

/-- Read the letters of an argument. An option whose value is still to come is handed back. -/
def readLetters (switches : List Switch) :
    List Char → Reading → Except Refusal (Reading × Option Switch)
  | [], reading => .ok (reading, none)
  | letter :: rest, reading =>
    match switches.find? (·.letter = some letter) with
    | none => .error .usage
    | some switch =>
      if switch.value.isSome then
        match rest with
        | [] => .ok (reading, some switch)
        | '=' :: value => do return (← reading.add switch (String.ofList value), none)
        | value => do return (← reading.add switch (String.ofList value), none)
      else do readLetters switches rest (← reading.add switch "")

/-- Read a long option, with the value that is attached to it. -/
def readName (switches : List Switch) (name : String) (value : Option String)
    (reading : Reading) : Except Refusal (Reading × Option Switch) :=
  match switches.find? (·.name = name) with
  | none => .error .usage
  | some switch =>
    match switch.value.isSome, value with
    | true, some value => do return (← reading.add switch value, none)
    | true, none => .ok (reading, some switch)
    | false, some _ => .error .usage
    | false, none => do return (← reading.add switch "", none)

/-- Read an argument that is written as an option. -/
def readOption (switches : List Switch) (argument : String) (reading : Reading) :
    Except Refusal (Reading × Option Switch) :=
  match argument.toList with
  | '-' :: '-' :: name =>
    let text := String.ofList name
    match Text.cutFirst? '=' text with
    | some (name, value) => readName switches name (some value) reading
    | none => readName switches text none reading
  | letters => readLetters switches (letters.drop 1) reading

/-- The options of a command, and how many operands it takes at most, if that is limited. -/
structure Grammar where
  switches : List Switch
  operands : Option Nat

/-- Read the arguments of a command, of which the first may be the value of an option before it. -/
def readArguments (grammar : Grammar) :
    Option Switch → List String → Reading → Except Refusal Reading
  | none, [], reading => .ok reading
  | some _, [], _ => .error .usage
  | some switch, argument :: rest, reading => do
    if isOption argument then throw .usage
    else readArguments grammar none rest (← reading.add switch argument)
  | none, argument :: rest, reading => do
    if argument = "--" then rest.foldlM (Reading.addOperand grammar.operands) reading
    else if isOption argument then
      let (reading, pending) ← readOption grammar.switches argument reading
      readArguments grammar pending rest reading
    else readArguments grammar none rest (← reading.addOperand grammar.operands argument)

/-! ## Commands -/

/-- What can be done. -/
inductive Command where
  /-- Compile a workflow and write its documents. -/
  | compile (workflow resources out : String) (target : Option String) (maxDepth : Nat)
  /-- Show the descriptor of a tool. -/
  | inspect (resources identifier : String)
  /-- Show the fragment that runs data resources one after the other. -/
  | pipeline (resources : String) (identifiers : List String)
  /-- Show the types of all data resources. -/
  | types (resources : String)
  deriving DecidableEq, Repr

/-- The options of every command. -/
def commonSwitches : List Switch := [⟨"verbose", some 'v', none⟩, ⟨"help", some 'h', none⟩]

/-- The option for the resource document. -/
def resourcesSwitch : Switch := ⟨"resources", some 'r', some .path⟩

/-- The arguments of the command that compiles. -/
def compileGrammar : Grammar where
  switches :=
    [⟨"workflow", some 'w', some .path⟩, resourcesSwitch, ⟨"out", some 'o', some .path⟩,
      ⟨"target-store", some 't', some .text⟩, ⟨"max-depth", none, some .count⟩] ++ commonSwitches
  operands := some 0

/-- The arguments of a command that queries resources. -/
def queryGrammar (operands : Option Nat) : Grammar := ⟨resourcesSwitch :: commonSwitches, operands⟩

/-- The value of an option that has to be there. -/
def Reading.value (reading : Reading) (option : String) : Except Refusal String :=
  match reading.values.lookup option with
  | some value => .ok value
  | none => .error .usage

/-- The command that compiles, from its arguments. -/
def compileCommand (reading : Reading) : Except Refusal Command := do
  let standard : Settings := {}
  return .compile (← reading.value "workflow") (← reading.value "resources")
    ((reading.values.lookup "out").getD ".") (reading.values.lookup "target-store")
    (((reading.values.lookup "max-depth").bind count?).getD standard.maxDepth)

/-- The names of the commands. -/
def commandNames : List String := ["compile", "inspect", "pipeline", "types", "help"]

/-- The command of a name, from the arguments after it. Help can be had about each command. -/
def readCommand (name : String) (arguments : List String) : Except Refusal Command := do
  match name with
  | "compile" => compileCommand (← readArguments compileGrammar none arguments {})
  | "inspect" =>
    let reading ← readArguments (queryGrammar (some 1)) none arguments {}
    match reading.operands with
    | [identifier] => return .inspect (← reading.value "resources") identifier
    | _ => throw .usage
  | "pipeline" =>
    let reading ← readArguments (queryGrammar none) none arguments {}
    if reading.operands.isEmpty then throw .usage
    else return .pipeline (← reading.value "resources") reading.operands
  | "types" =>
    let reading ← readArguments (queryGrammar (some 0)) none arguments {}
    return .types (← reading.value "resources")
  | "help" =>
    match arguments with
    | [] => throw .help
    | [topic] => throw (if topic ∈ commandNames then .help else .usage)
    | _ => throw .usage
  | _ => throw .usage

/-- The command of a command line, with the options that stand before it. -/
def readCommandLine : List String → Reading → Except Refusal Command
  | [], _ => .error .usage
  | argument :: rest, reading => do
    if argument = "--" then throw .usage
    else if isOption argument then
      let (reading, _) ← readOption commonSwitches argument reading
      readCommandLine rest reading
    else readCommand argument rest

/-- The command of a command line. -/
def Command.ofArguments (arguments : List String) : Except Refusal Command :=
  readCommandLine arguments {}

end WorkflowChain.Shell
