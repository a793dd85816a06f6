import Keychord.CommandLine.Options
import Keychord.KeyEvent
import Keychord.Platform

/-!
# What the program is asked to do

There are three commands: one tells whether an event triggers an accelerator, one shows how
an accelerator is understood, one lists the commands that a shortcut file binds to an event.
A fourth word, `help`, explains the others.
-/
namespace Keychord.CommandLine

inductive Command where
  | check (pattern : String) (e : KeyEvent) (setting : PlatformSetting)
  | parse (pattern : String) (setting : PlatformSetting) (json : Bool)
  | dispatch (e : KeyEvent) (config : Option String)
  deriving DecidableEq

structure Invocation where
  verbose : Bool
  command : Command
  deriving DecidableEq

def isSetting (text : String) : Bool := (PlatformSetting.read text).isOk

/-- Options that are understood before and after the name of a command. -/
def sharedOptions : List OptionSpec := [
  { name := "verbose", letter := some 'v', summary := "Log at debug level" },
  { name := "help", letter := some 'h', summary := "Print help" }]

/-- Options that describe a key event. The label may be any text. -/
def eventOptions : List OptionSpec := [
  { name := "key", asks := .text true fun _ => true
    summary := "Key label as an event reports it" },
  { name := "ctrl" }, { name := "alt" }, { name := "shift" },
  { name := "meta", summary := "Cmd on macOS, Win/Super elsewhere" }]

def platformOption : OptionSpec :=
  { name := "platform", asks := .text false isSetting,
    summary := "Platform the Apple-only aliases resolve for (auto, apple, other)" }

/-- A path must not be empty. -/
def configOption : OptionSpec :=
  { name := "config", asks := .text false fun path => !path.isEmpty, summary := "Shortcut file" }

def topGrammar : Grammar where
  options := sharedOptions ++
    [{ name := "version", letter := some 'V', summary := "Print version" }]
  commands := ["check", "parse", "dispatch", "help"]

def checkGrammar : Grammar where
  options := eventOptions ++ [platformOption] ++ sharedOptions
  positionals := ["PATTERN"]

def parseGrammar : Grammar where
  options := platformOption ::
    { name := "json", summary := "Print JSON instead of the display form" } :: sharedOptions
  positionals := ["PATTERN"]

def dispatchGrammar : Grammar where
  options := eventOptions ++ [configOption] ++ sharedOptions

def missing {α : Type} (name : String) : Except Stop α := .error (.misuse (.missingArgument name))

namespace Given

/-- The pattern that a command is about. -/
def pattern (given : Given) : Except Stop String :=
  given.positionals.head?.elim (missing "PATTERN") .ok

/-- The event that the options describe. -/
def event (given : Given) : Except Stop KeyEvent :=
  match given.value? "key" with
  | none => missing "--key"
  | some label =>
    .ok {
      label
      modifiers := {
        ctrl := given.has "ctrl"
        shift := given.has "shift"
        alt := given.has "alt"
        metaKey := given.has "meta" } }

/-- The platform setting, which is automatic unless it is given. -/
def setting (given : Given) : PlatformSetting :=
  match given.value? "platform" with
  | none => .auto
  | some text => (PlatformSetting.read text).toOption.getD .auto

end Given

/-- The arguments after the name of a command. -/
def arguments (topic : String) (g : Grammar) (args : List String) : Except Stop Given := do
  match ← g.read (some topic) args with
  | .finish given | .command given _ _ => return given

/-- Reads a command with the arguments after its name. The first result tells whether the
arguments ask for verbose logs. -/
def readCommand (name : String) (args : List String) : Except Stop (Bool × Command) :=
  match name with
  | "check" => do
    let given ← arguments name checkGrammar args
    return (given.has "verbose", .check (← given.pattern) (← given.event) given.setting)
  | "parse" => do
    let given ← arguments name parseGrammar args
    return (given.has "verbose", .parse (← given.pattern) given.setting (given.has "json"))
  | "dispatch" => do
    let given ← arguments name dispatchGrammar args
    return (given.has "verbose", .dispatch (← given.event) (given.value? "config"))
  | "help" =>
    match args with
    | [] => .error (.help none)
    | [topic] =>
      if topGrammar.commands.contains topic then .error (.help (some topic))
      else .error (.misuse (.unknownCommand topic))
    | topic :: next :: _ =>
      let unknown := if topGrammar.commands.contains topic then next else topic
      .error (.misuse (.unknownCommand unknown))
  | _ => .error (.misuse (.unknownCommand name))

/-- Reads the arguments that the program is called with. -/
def Invocation.read (args : List String) : Except Stop Invocation := do
  match ← topGrammar.read none args with
  | .finish _ => .error (.misuse .missingCommand)
  | .command given name args =>
    let (verbose, command) ← readCommand name args
    return ⟨given.has "verbose" || verbose, command⟩

end Keychord.CommandLine
