import Keychord.CommandLine.Report

/-!
# The program

Reads the environment, the arguments and at most one file, and shows the report.
-/
namespace Keychord.CommandLine

/-- The operating system's number of an error, which may come with its sign reversed. -/
def errorNumber (code : UInt32) : UInt32 := min code (0 - code)

/-- Why the operating system refuses something. -/
def refusal : IO.Error → String
  | .noFileOrDirectory _ _ _ => FileError.missing.message
  | .alreadyExists _ _ _ => FileError.occupied.message
  | .inappropriateType _ code _ =>
    (if errorNumber code = 21 then FileError.isDirectory else FileError.notDirectory).message
  | e@(.invalidArgument _ code _) =>
    if errorNumber code = 36 then FileError.nameTooLong.message else toString e
  | other => toString other

def readText (path : String) : IO (Except String String) := do
  match ← (IO.FS.readBinFile path).toBaseIO with
  | .ok content => return (String.fromUTF8? content).elim (.error FileError.notText.message) .ok
  | .error e => return .error (refusal e)

/-- Makes the directory for logs; gives the reason if it cannot be had. -/
def makeLogsDir (env : Environment) : IO (Option String) := do
  match env.logsDir? with
  | none => return some Environment.noDirectory
  | some path =>
    match ← (IO.FS.createDirAll path).toBaseIO with
    | .ok _ => return none
    | .error e => return some (Environment.notMade path (refusal e))

def present (report : Report) : IO UInt32 := do
  report.complaints.forM fun line => IO.eprintln line
  IO.print report.output
  return report.status.toUInt32

/-- Carries out an invocation. -/
def perform (invocation : Invocation) : IO UInt32 := do
  let env : Environment := ⟨← IO.getEnv "XDG_CONFIG_HOME", ← IO.getEnv "HOME"⟩
  let problem ← makeLogsDir env
  let text ← match invocation.command.file? env with
    | some path => readText path
    | none => pure (.error FileError.missing.message)
  let report := invocation.command.report env fun _ => text
  present (problem.elim report report.warnOfLogs)

/-- Does what the arguments ask for. -/
def start (args : List String) : IO UInt32 :=
  match Invocation.read args with
  | .error stop => present stop.report
  | .ok invocation => perform invocation

end Keychord.CommandLine

def main (args : List String) : IO UInt32 := Keychord.CommandLine.start args
