/-!
# Options on a command line

A command line is read one argument after another. An option is given by its long name after
two dashes, or by its letter after one dash, where several letters may share the dash. The
value of an option follows an equals sign, or is the next argument. Two dashes alone end the
options. A single dash is no option.

The first argument that is wrong, and the first that asks for help or the version, ends the
reading.
-/
namespace Keychord.CommandLine

/-- What an option asks for besides its name. -/
inductive Asks where
  | nothing
  /-- A text; `anyNext` lets the next argument be it even if it looks like an option. -/
  | text (anyNext : Bool) (accepts : String → Bool)

structure OptionSpec where
  name : String
  letter : Option Char := none
  asks : Asks := .nothing
  summary : String := ""

/-- What the arguments may be until a command is named, or after one. -/
structure Grammar where
  options : List OptionSpec
  positionals : List String := []
  commands : List String := []

/-- How a command line can be wrong. -/
inductive Misuse where
  | unknownArgument (text : String)
  | unknownCommand (text : String)
  | missingCommand
  | missingArgument (name : String)
  | missingValue (option : String)
  | unexpectedValue (option : String)
  | invalidValue (option value : String)
  | repeated (option : String)
  deriving DecidableEq

def Misuse.message : Misuse → String
  | unknownArgument text => "unexpected argument '" ++ text ++ "' found"
  | unknownCommand text => "unrecognized subcommand '" ++ text ++ "'"
  | missingCommand => "a subcommand is required"
  | missingArgument name => "the required argument '" ++ name ++ "' was not provided"
  | missingValue option => "a value is required for '--" ++ option ++ "' but none was supplied"
  | unexpectedValue option => "unexpected value for '--" ++ option ++ "'"
  | invalidValue option value => "invalid value '" ++ value ++ "' for '--" ++ option ++ "'"
  | repeated option => "the argument '--" ++ option ++ "' cannot be used multiple times"

/-- Why a command line leads to no command that could be carried out. -/
inductive Stop where
  | help (topic : Option String)
  | version
  | misuse (m : Misuse)
  deriving DecidableEq

/-- The options found, with the text each asks for, and the other arguments. -/
structure Given where
  options : List (String × String) := []
  positionals : List String := []

namespace Given

def has (name : String) (given : Given) : Bool := (given.options.lookup name).isSome

def value? (name : String) (given : Given) : Option String := given.options.lookup name

/-- Adds an option. Each can be given once; those for help and the version end the reading. -/
def add (topic : Option String) (option : OptionSpec) (value : String) (given : Given) :
    Except Stop Given :=
  if option.name = "help" then .error (.help topic)
  else if option.name = "version" then .error .version
  else if given.has option.name then .error (.misuse (.repeated option.name))
  else
    let accepted := match option.asks with
      | .nothing => true
      | .text _ accepts => accepts value
    if accepted then .ok { given with options := (option.name, value) :: given.options }
    else .error (.misuse (.invalidValue option.name value))

end Given

/-- The argument begins like an option. -/
def looksLikeOption (arg : String) : Bool := arg.startsWith "-" && arg ≠ "-"

/-- The name of a long option, and the text after an equals sign. -/
def splitLong (arg : String) : String × Option String :=
  let body := arg.toList.drop 2
  let name := String.ofList (body.takeWhile (· ≠ '='))
  match body.dropWhile (· ≠ '=') with
  | _ :: value => (name, some (String.ofList value))
  | [] => (name, none)

/-- Where the reading of arguments ends: at the end, or at the name of a command. -/
inductive Reached where
  | finish (given : Given)
  | command (given : Given) (name : String) (args : List String)

/-- How reading goes on after an argument: with an option that waits for its value, or not. -/
structure Progress where
  given : Given := {}
  waiting : Option OptionSpec := none
  optionsEnded : Bool := false

namespace Grammar

/-- Adds an argument that is no option. -/
def addPositional (g : Grammar) (arg : String) (p : Progress) : Except Stop Progress :=
  if p.given.positionals.length < g.positionals.length then
    .ok { p with given := { p.given with positionals := p.given.positionals ++ [arg] } }
  else if g.commands.isEmpty then .error (.misuse (.unknownArgument arg))
  else .error (.misuse (.unknownCommand arg))

def addLong (topic : Option String) (g : Grammar) (arg : String) (p : Progress) :
    Except Stop Progress := do
  let (name, value) := splitLong arg
  match g.options.find? (·.name = name) with
  | none => .error (.misuse (.unknownArgument arg))
  | some option =>
    match option.asks, value with
    | .nothing, none => return { p with given := ← p.given.add topic option "" }
    | .nothing, some _ => .error (.misuse (.unexpectedValue name))
    | .text _ _, some value => return { p with given := ← p.given.add topic option value }
    | .text _ _, none => return { p with waiting := some option }

/-- Adds the options whose letters share a dash. Only options that ask for nothing have one. -/
def addLetters (topic : Option String) (g : Grammar) (arg : String) (p : Progress) :
    Except Stop Progress := do
  let given ← (arg.toList.drop 1).foldlM (fun (given : Given) c =>
    match g.options.find? (·.letter = some c) with
    | some option => given.add topic option ""
    | none => .error (.misuse (.unknownArgument arg))) p.given
  return { p with given }

/-- Adds an argument as the value of the option that waits for one. -/
def addValue (topic : Option String) (option : OptionSpec) (arg : String) (p : Progress) :
    Except Stop Progress := do
  let taken := match option.asks with
    | .nothing => false
    | .text anyNext _ => anyNext || !looksLikeOption arg
  if taken then return { p with given := ← p.given.add topic option arg, waiting := none }
  else .error (.misuse (.missingValue option.name))

/-- Adds an argument other than the name of a command. -/
def addArgument (topic : Option String) (g : Grammar) (arg : String) (p : Progress) :
    Except Stop Progress :=
  match p.waiting with
  | some option => addValue topic option arg p
  | none =>
    if p.optionsEnded then g.addPositional arg p
    else if arg = "--" then .ok { p with optionsEnded := true }
    else if arg.startsWith "--" then g.addLong topic arg p
    else if looksLikeOption arg then g.addLetters topic arg p
    else g.addPositional arg p

/-- Reads arguments up to the end or the name of a command. -/
def readFrom (topic : Option String) (g : Grammar) : Progress → List String → Except Stop Reached
  | p, [] =>
    match p.waiting with
    | some option => .error (.misuse (.missingValue option.name))
    | none => .ok (.finish p.given)
  | p, arg :: args =>
    if p.waiting.isNone && !p.optionsEnded && g.commands.contains arg then
      .ok (.command p.given arg args)
    else match g.addArgument topic arg p with
      | .ok p => readFrom topic g p args
      | .error stop => .error stop

/-- Reads arguments; `topic` is what help is given on if they ask for it. -/
def read (topic : Option String) (g : Grammar) (args : List String) : Except Stop Reached :=
  readFrom topic g {} args

end Grammar
end Keychord.CommandLine
