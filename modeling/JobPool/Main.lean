import JobPool.Json.Layout
import JobPool.Load.CommandLine
import JobPool.Scenario.LoadTrial

/-!
The command line of a load run: reads the arguments and the settings file, runs the load and prints
what it reports. The run is a trial, in which no attempt takes any time.
-/

namespace JobPool.Terminal

/-- The reason that the system gives. -/
def reasonOf : IO.Error → FileError
  | .inappropriateType _ code _ => if code = 21 then .isADirectory else .notADirectory
  | .invalidArgument _ code _ => if code = 36 then .nameTooLong else .notFound
  | _ => .notFound

/-- Reads the text at a path. -/
def readText (path : String) : IO (Except FileError String) := do
  try
    match String.fromUTF8? (← IO.FS.readBinFile path) with
    | some text => return .ok text
    | none => return .error .notText
  catch e => return .error (reasonOf e)

/-- Reads the settings file that the arguments name. -/
def readConfig (a : Load.Arguments) : IO (String → Except Settings.LoadError Settings) := do
  let read ← match a.config with
    | none => pure (.error .notFound)
    | some path => readText path
  return fun path => Settings.loadRead path read

/-- Prints what a run reports. -/
def printReport (r : Scenario.LoadReport) : IO Unit := do
  for record in r.logs do
    if record.level ≠ .debug then IO.eprintln s!"[{record.level.name}] {record.text}"
  IO.println r.summary.greatestLine
  IO.println r.summary.processedAndGaugeLine
  IO.println r.summary.snapshot.toJson.layOut

/-- Runs the load and gives the exit code. -/
def runLoad (a : Load.Arguments) : IO UInt32 := do
  match Scenario.LoadTrial.run (← readConfig a) a with
  | .ok report => printReport report; return 0
  | .error (.faulted fault) => IO.eprintln fault.message; return 101
  | .error e => IO.eprintln ("Error: " ++ e.chain); return 1

end JobPool.Terminal

/-- Exits with 2 if the arguments are refused, and with 1 if the run is. -/
def main (words : List String) : IO UInt32 := do
  match JobPool.Load.Arguments.ofWords words with
  | .error (.asksFor notice) => IO.println notice.text; return 0
  | .error e => IO.eprintln e.message; return 2
  | .ok a =>
    match a.objection? with
    | some objection => IO.eprintln ("Error: " ++ objection.message); return 2
    | none => JobPool.Terminal.runLoad a
