import Keychord.CommandLine.Invocation
import Keychord.Environment
import Keychord.ShortcutFile

/-!
# What the program answers

A report is all that the program shows: its exit status, what it prints, and what it prints
as complaints. The status is zero if something matched or was shown, one if nothing matched,
and two if the program could not do what it was asked to.
-/
namespace Keychord.CommandLine

structure Report where
  status : Nat
  output : String := ""
  complaints : List String := []

namespace Report

/-- Lines of output; the status tells whether the answer is yes. -/
def answer (yes : Bool) (lines : List String) : Report where
  status := if yes then 0 else 1
  output := String.join (lines.map (· ++ "\n"))

def failure (message : String) : Report where
  status := 2
  complaints := ["Error: " ++ message]

/-- Complains first of the directory for logs. -/
def warnOfLogs (report : Report) (message : String) : Report :=
  { report with
    complaints := ("Warning: Could not initialize file logging: " ++ message) :: report.complaints }

end Report

/-- How an option is written. -/
def OptionSpec.usage (option : OptionSpec) : String :=
  let letter := option.letter.elim "    " fun c => "-" ++ c.toString ++ ", "
  let value := match option.asks with
    | .nothing => ""
    | .text _ _ => " <" ++ option.name.toUpper ++ ">"
  letter ++ "--" ++ option.name ++ value

/-- The help on a command, or on the program. -/
def helpText (topic : Option String) : String :=
  let (usage, g) := match topic with
    | some "check" => (" check [OPTIONS] --key <KEY> <PATTERN>", checkGrammar)
    | some "parse" => (" parse [OPTIONS] <PATTERN>", parseGrammar)
    | some "dispatch" => (" dispatch [OPTIONS] --key <KEY>", dispatchGrammar)
    | _ => (" [OPTIONS] <COMMAND>", topGrammar)
  let commands :=
    if g.commands.isEmpty then []
    else "" :: "Commands:" :: g.commands.map ("  " ++ ·)
  let options := g.options.map fun option =>
    "  " ++ option.usage ++ (if option.summary.isEmpty then "" else "  " ++ option.summary)
  String.join ((["Match key events against accelerators", "", "Usage: keymatch" ++ usage] ++
    commands ++ ["", "Options:"] ++ options).map (· ++ "\n"))

/-- The report if there is no command to carry out. -/
def Stop.report : Stop → Report
  | .help topic => { status := 0, output := helpText topic }
  | .version => { status := 0, output := "keymatch 0.1.0\n" }
  | .misuse m => { status := 2, complaints := ["error: " ++ m.message] }

/-- The message of an error and of what caused it. An invalid accelerator is both. -/
def loadMessage (path : String) (error : ShortcutFile.LoadError) : String :=
  let cause := error.cause?.elim "" fun invalid => ": " ++ invalid.message
  "Failed to load shortcuts from " ++ path ++ ": " ++ error.message ++ cause

/-- Lists what a shortcut file binds to an event. -/
def dispatchReport (e : KeyEvent) (path : String) (text : Except String String) : Report :=
  match (text.mapError .unreadable).bind ShortcutFile.ofText with
  | .error error => .failure (loadMessage path error)
  | .ok file =>
    let commands := file.commandsFor e
    .answer (!commands.isEmpty) commands

/-- The file that a command reads, if it reads one. -/
def Command.file? (env : Environment) : Command → Option String
  | .dispatch _ config => config <|> env.shortcutsFile?
  | .check _ _ _ | .parse _ _ _ => none

/-- Carries out a command. `readText` gives the text of the file at a path, or the reason why
there is none. -/
def Command.report (env : Environment) (readText : String → Except String String) :
    Command → Report
  | .check pattern e setting =>
    match (e.triggers pattern).on setting.resolve with
    | .error invalid => .failure invalid.message
    | .ok hit => .answer hit [if hit then "match" else "no match"]
  | .parse pattern setting json =>
    match (Accelerator.read pattern).on setting.resolve with
    | .error invalid => .failure invalid.message
    | .ok a =>
      .answer true
        [if json then a.json.indented else if a.isInert then "(never matches)" else a.display]
  | .dispatch e config =>
    match Command.file? env (.dispatch e config) with
    | none => .failure (Environment.noDirectory ++ "; pass --config")
    | some path => dispatchReport e path (readText path)

/-- Runs the program on files. The directory for logs is made first, also if the command has no
use for it; that it cannot be made is only worth a warning. -/
def run (env : Environment) (files : Files) (args : List String) : Report × Files :=
  match Invocation.read args with
  | .error stop => (stop.report, files)
  | .ok invocation =>
    let (logs, files) := env.ensureLogsDir files
    let report := invocation.command.report env fun path =>
      (files.readText path).mapError FileError.message
    match logs with
    | .ok _ => (report, files)
    | .error message => (report.warnOfLogs message, files)

end Keychord.CommandLine
