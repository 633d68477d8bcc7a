/-!
# Command line arguments

A command has options with a value each, arguments by position, or further commands. `Arguments.read` goes
through the words of a command line: options may stand anywhere before the next command, a value may follow
its option as the next word or after an equals sign, and after two dashes every word is an argument.
-/

namespace FederatedLedger

/-- A place for a value: an option, or an argument by position. -/
structure Slot where
  name : String
  /-- The letter by which an option may be given. -/
  short : Option Char
  isRequired : Bool
  /-- Whether an option may be given several times. -/
  isRepeatable : Bool
  /-- Whether a text is a value for this place. -/
  accepts : String → Bool
  about : String

/-- A command. -/
structure CommandSpec where
  name : String
  about : String
  options : List Slot
  arguments : List Slot
  commands : List CommandSpec

/-- Why no command is run. -/
inductive Refusal where
  /-- The command line is at fault. -/
  | usage
  /-- Help was asked for on this command, whose name is preceded by those of its parents. -/
  | help (parents : List String) (command : CommandSpec)

/-- What was read of a command line. -/
structure Arguments where
  /-- The command that the next words belong to. -/
  command : CommandSpec
  /-- The names of the commands before it. -/
  parents : List String
  /-- The values so far, latest first. -/
  values : List (String × String)
  /-- How many arguments by position the command has got. -/
  filled : Nat
  /-- Whether two dashes were met. -/
  afterDashes : Bool

/-- What a word of a command line is. -/
inductive Word where
  | dashes
  | command (c : CommandSpec)
  | helpCommand
  | helpOption
  /-- An option, and its value if that is in the same word. -/
  | option (slot : Slot) (value : Option String)
  | argument
  | unknown

namespace Arguments

def ofCommand (c : CommandSpec) : Arguments := ⟨c, [], [], 0, false⟩

/-- The values of a place, in order. -/
def valuesOf (a : Arguments) (name : String) : List String :=
  (a.values.reverse.filter fun v => v.1 = name).map Prod.snd

def value? (a : Arguments) (name : String) : Option String := a.values.lookup name

/-- The option with a long name, and its value after an equals sign. -/
def longOption (c : CommandSpec) (word : List Char) : Word :=
  let name := String.ofList (word.takeWhile (· ≠ '='))
  let value := match word.dropWhile (· ≠ '=') with
    | _ :: r => some (String.ofList r)
    | [] => none
  match c.options.find? fun s => s.name = name with
  | some slot => .option slot value
  | none => if name = "help" ∧ value = none then .helpOption else .unknown

/-- The option with a letter, and its value behind the letter. -/
def shortOption (c : CommandSpec) (letter : Char) (rest : List Char) : Word :=
  let value := match rest with
    | [] => none
    | '=' :: r => some (String.ofList r)
    | r => some (String.ofList r)
  match c.options.find? fun s => s.short = some letter with
  | some slot => .option slot value
  | none => if letter = 'h' then .helpOption else .unknown

/-- What a word is. -/
def classify (a : Arguments) (word : String) : Word :=
  if a.afterDashes then .argument
  else match a.command.commands.find? fun c => c.name = word with
    | some c => .command c
    | none =>
      if word = "help" ∧ !a.command.commands.isEmpty then .helpCommand
      else match word.toList with
        | ['-', '-'] => .dashes
        | '-' :: '-' :: r => longOption a.command r
        | '-' :: c :: r => shortOption a.command c r
        | _ => .argument

/-- Whether a word cannot be the value of the option before it. -/
def isOptionLike (word : String) : Bool :=
  match word.toList with
  | '-' :: _ :: _ => true
  | _ => false

/-- Gives a place its value. -/
def give (a : Arguments) (slot : Slot) (value : String) : Except Refusal Arguments :=
  if slot.accepts value ∧ (slot.isRepeatable ∨ (a.value? slot.name).isNone)
  then .ok { a with values := (slot.name, value) :: a.values }
  else .error .usage

/-- Gives the next argument by position. -/
def giveNext (a : Arguments) (value : String) : Except Refusal Arguments :=
  match a.command.arguments[a.filled]? with
  | some slot => ({ a with filled := a.filled + 1 }).give slot value
  | none => .error .usage

/-- Goes on to a command inside the present one. -/
def enter (a : Arguments) (c : CommandSpec) : Arguments :=
  { a with command := c, parents := a.parents ++ [a.command.name], filled := 0 }

/-- The help that the names after the word `help` ask for. -/
def helpFor (a : Arguments) : List String → Refusal
  | [] => .help a.parents a.command
  | name :: rest =>
    match a.command.commands.find? fun c => c.name = name with
    | some c => helpFor (a.enter c) rest
    | none => .usage

/-- At the end a command has to be named, and everything that is required has to be there. -/
def finish (a : Arguments) : Except Refusal Arguments :=
  let isGiven (s : Slot) : Bool := !s.isRequired || (a.value? s.name).isSome
  if a.command.commands.isEmpty ∧ (a.command.options ++ a.command.arguments).all isGiven then .ok a
  else .error .usage

/-- Reads the words of a command line. -/
def read (a : Arguments) : List String → Except Refusal Arguments
  | [] => a.finish
  | word :: rest =>
    match a.classify word with
    | .dashes => ({ a with afterDashes := true }).read rest
    | .command c => (a.enter c).read rest
    | .helpCommand => .error (a.helpFor rest)
    | .helpOption => .error (.help a.parents a.command)
    | .option slot (some value) =>
      match a.give slot value with
      | .ok a => a.read rest
      | .error e => .error e
    | .option slot none =>
      match rest with
      | [] => .error .usage
      | value :: rest =>
        if isOptionLike value then .error .usage
        else match a.give slot value with
          | .ok a => a.read rest
          | .error e => .error e
    | .argument =>
      match a.giveNext word with
      | .ok a => a.read rest
      | .error e => .error e
    | .unknown => .error .usage

end Arguments
end FederatedLedger
