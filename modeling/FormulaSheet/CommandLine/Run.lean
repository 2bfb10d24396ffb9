import FormulaSheet.CommandLine.Arguments
import FormulaSheet.CommandLine.Output
import FormulaSheet.Json.Printer
import FormulaSheet.Machine
import FormulaSheet.Settings
import FormulaSheet.Sheet.File
import FormulaSheet.Sheet.Sweep

/-!
# The command line

The program has three commands: one shows the tokens of a formula, one evaluates a formula, and one
evaluates all cells of a sheet file. In front of the command a project folder may be named; its
settings are used then, and events are recorded in it.

A run is a function of the words of the command line, of what stands under the paths that they
name, and of the machine. It gives what is written, the status that the program ends with, and the
events to record. Words that make no command end with status two. What is wrong with a formula or a
file is told in one line; a fault of another kind, which no one wrote a line for, ends the run as it
is.
-/

namespace FormulaSheet.CommandLine

/-- What stands under a path. -/
inductive Entry where
  /-- nothing -/
  | absent
  /-- a folder -/
  | folder
  /-- a file with its octets -/
  | file (octets : List UInt8)

/-- What stands under every path. -/
abbrev Disk : Type :=
  Text → Entry

/-- The text of a file. -/
def fileText (octets : List UInt8) : Except Fault Text :=
  match Utf8.read octets with
  | .ok s => .ok (Text.ofList s)
  | .error e => .error (.undecodable e)

/-- What a run comes out with. -/
structure Report where
  /-- the status that the program ends with -/
  status : Nat
  /-- what is written for the answer -/
  output : Text
  /-- what is written for a complaint -/
  complaint : Text
  /-- the fault that ended the run, if it was not told in a line -/
  fault : Option Fault
  /-- the project folder in which events are recorded, if there is one -/
  project : Option Text
  /-- whether each event is forced to the disk -/
  sync : Bool
  /-- the events to record, in order -/
  events : List Event

namespace Report

/-- Words that make no command. -/
def usage : Report :=
  ⟨2, "", "", none, none, false, []⟩

/-- An answer. -/
def answer (status : Nat) (output : Text) : Report :=
  ⟨status, output, "", none, none, false, []⟩

/-- A complaint in one line. -/
def complain (m : Machine) (message : Text) : Report :=
  ⟨1, "", "Error: " ++ told m.complaints message ++ "\n", none, none, false, []⟩

/-- A fault that ends the run. -/
def abort (f : Fault) : Report :=
  ⟨1, "", "", some f, none, false, []⟩

/-- An answer that is written text by text, or the fault that keeps it from being written. -/
def ofTexts (m : Machine) (status : Nat) : Except Fault (List Text) → Report
  | .ok texts =>
    match write m.answers texts with
    | (output, none) => answer status output
    | (output, some f) => { abort f with output }
  | .error f => abort f

/-- Adds events in front. -/
def after (events : List Event) (r : Report) : Report :=
  { r with events := events ++ r.events }

/-- Names the project folder, in which events are recorded as the settings say. -/
def inProject (folder : Option Text) (settings : Value) (r : Report) : Report :=
  { r with project := folder, sync := (Settings.logging settings).toOption.any (·.sync) }

end Report

/-- Whether a fault is told in a line when the settings cannot be used. -/
def isToldOfSettings (f : Fault) : Bool :=
  f.isOfValue || f.isOfYaml

/-- Whether a fault is told in a line when a sheet file cannot be used. -/
def isToldOfSheet (f : Fault) : Bool :=
  isToldOfSettings f || f.isFormulaFault || f.isOfType

/-! ## Words -/

/-- A command. -/
inductive Command where
  /-- show the tokens of a formula -/
  | tokens (text : Text)
  /-- evaluate a formula -/
  | eval (text : Text) (sheet origin : Option Text) (json : Bool)
  /-- evaluate all cells of a sheet file -/
  | cells (path : Text) (json : Bool)

/-- What the words of a command come to. -/
inductive Reading where
  /-- a command -/
  | command (c : Command)
  /-- a question for help -/
  | help
  /-- no command -/
  | wrong
  /-- a command with a fault in its words -/
  | faulty (f : Fault)

/-- The options in front of the command. -/
def mainOptions : OptionSet :=
  ⟨["--project"], ["--version", "--help"], false⟩

/-- The commands and their options. -/
def commands : List (Text × OptionSet) :=
  [("tokens", ⟨[], ["--help"], true⟩),
   ("eval", ⟨["--sheet", "--origin"], ["--json", "--help"], true⟩),
   ("cells", ⟨[], ["--json", "--help"], true⟩)]

/-- Whether a path names a file. -/
def isFile (disk : Disk) (path : Text) : Bool :=
  match disk path with
  | .file _ => true
  | _ => false

/-- Whether a path names a folder. -/
def isFolder (disk : Disk) (path : Text) : Bool :=
  match disk path with
  | .folder => true
  | _ => false

/-- Whether a path can be one. -/
def isPath (path : Text) : Bool :=
  !path.toList.contains (Point.ofNat 0)

/-- The paths that the words of a command name. -/
def namedPaths (name : Text) (a : Arguments) : List Text :=
  (a.value? "--sheet").toList ++ if name = "cells" then a.rest.take 1 else []

/-- Reads the words behind the name of a command. Files that are named must be there, and their
paths are looked at before the number of words is. -/
def readCommand (disk : Disk) (name : Text) (options : OptionSet) (words : List Text) :
    Reading :=
  match Arguments.read options words with
  | none => .wrong
  | some a =>
    if a.has "--help" then .help
    else if !(namedPaths name a).all isPath then .faulty .nullInPath
    else
      match a.rest with
      | [word] =>
        if name = "tokens" then .command (.tokens word)
        else if name = "eval" && (a.value? "--sheet").all (isFile disk) then
          .command (.eval word (a.value? "--sheet") (a.value? "--origin") (a.has "--json"))
        else if name = "cells" && isFile disk word then .command (.cells word (a.has "--json"))
        else .wrong
      | _ => .wrong

/-! ## Commands -/

/-- The document of a double: null if it is no number or infinite. -/
def number (x : Float) : Json :=
  if x.isFinite then .float x else .null

/-- The text of an error. -/
def errorText (error : Value) : Text :=
  (error.text.toOption).getD ""

/-- The document of an error. Only texts have one. -/
def errorDocument (error : Value) : Except Fault Json :=
  match error with
  | .str code => .ok (.str code)
  | v => .error (.wrongType (.text v.typeName))

/-- A line of output. -/
def lineOf (s : List Point) : Text :=
  Text.ofList (s ++ [Point.char '\n'])

/-- The sheet that a sheet file describes. -/
def sheetOf (m : Machine) (path : Text) (octets : List UInt8) : Except Fault Sheet := do
  Sheet.ofFile m.yaml path (← fileText octets)

/-- The sheet that a command works on: that of a file, or an empty one of the size that is set.
Gives the events that go with it, or the report that ends the run. -/
def loadSheet (m : Machine) (disk : Disk) (now : Text) (settings : Value) (path : Option Text) :
    Except Report (Sheet × List Event) :=
  match path with
  | none =>
    match Settings.grid settings with
    | .ok g => .ok (Sheet.blank g, [])
    | .error f => .error (.abort f)
  | some path =>
    match disk path with
    | .file octets =>
      match sheetOf m path octets with
      | .ok s => .ok (s, [s.loadedEvent now path])
      | .error f =>
        if isToldOfSheet f then
          let report := Report.complain m (path ++ ": " ++ f.message)
          .error (report.after [Sheet.failedEvent now path f])
        else .error (.abort f)
    | _ => .error (.abort .storage)

/-- Shows the tokens of a formula. -/
def showTokens (m : Machine) (text : Text) : Report :=
  match Formula.tokenize text with
  | .ok tokens => .ofTexts m 0 (.ok [lineOf (Json.arr (tokens.map .str)).text])
  | .error e => .complain m e.message

/-- What is shown of an evaluation. -/
def outcomeText (tokens : List Text) (json : Bool) (o : Outcome) : Except Fault Text :=
  if json then do
    .ok (lineOf (Json.obj [("tokens", .arr (tokens.map .str)), ("value", number o.value),
      ("error", ← errorDocument o.error)]).text)
  else if o.ok then .ok (Number.display o.value ++ "\n")
  else .ok (errorText o.error ++ " (" ++ Failure.describe (errorText o.error) ++ ")\n")

/-- Evaluates a formula on a sheet. -/
def evalOn (m : Machine) (state : LogState) (now : Text) (settings : Value) (s : Sheet)
    (text : Text) (origin : Option Text) (json : Bool) : Report :=
  match Formula.tokenize text with
  | .error e => .complain m e.message
  | .ok tokens =>
    match Settings.options (m.stack state) settings with
    | .error f => .abort f
    | .ok options =>
      let origin := (origin.filter (· ≠ ("" : Text))).map Text.upper
      let e := (Evaluator.ofOptions options).evaluate s.source origin (.list (tokens.map .str))
      let report := match e.outcome with
        | .error f => Report.abort f
        | .ok o =>
          Report.ofTexts m (if o.ok then 0 else 1) ((outcomeText tokens json o).map ([·]))
      report.after (e.notices.map (Event.ofNotice now))

/-- A label, with spaces behind it. -/
def padLabel (label : Text) : Text :=
  label ++ Text.ofList (List.replicate (8 - label.length) (Point.char ' '))

/-- What is shown of a row for people. -/
def rowText (r : Sheet.Row) : Text :=
  "  " ++ padLabel r.label ++ " " ++
    (if r.hasError then errorText r.error else Number.display r.value) ++ "\n"

/-- What is shown of a row for programs. -/
def rowDocument (r : Sheet.Row) : Except Fault Json := do
  .ok (.obj [("label", .str r.label), ("value", number r.value),
    ("error", ← errorDocument r.error)])

/-- What is shown of a sweep, text by text. -/
def rowsTexts (json : Bool) (rows : List Sheet.Row) : Except Fault (List Text) :=
  if json then do .ok [lineOf ((Json.arr (← rows.mapM rowDocument)).page 0)]
  else if rows.isEmpty then .ok ["No formulas found.\n"]
  else .ok (rows.map rowText)

/-- The event that all cells of a file were evaluated. -/
def sweptEvent (now path : Text) (rows : List Sheet.Row) : Event :=
  let errors := (rows.filter (·.hasError)).length
  Event.make now .info .formulaEvaluated
    ("evaluated " ++ Text.natText rows.length ++ " cells, " ++ Text.natText errors ++
      " with errors")
    [("path", .str path), ("cells", .int rows.length), ("errors", .int errors)] none

/-- Evaluates all cells of a sheet. -/
def cellsOf (m : Machine) (state : LogState) (now : Text) (settings : Value) (s : Sheet)
    (path : Text) (json : Bool) : Report :=
  match Settings.options (m.stack state) settings with
  | .error f => .abort f
  | .ok options =>
    let swept := s.sweep (Evaluator.ofOptions options)
    let report := match swept.rows with
      | .error f => Report.abort f
      | .ok rows => (Report.ofTexts m 0 (rowsTexts json rows)).after [sweptEvent now path rows]
    report.after (swept.notices.map (Event.ofNotice now))

/-- Runs a command, where this becomes of the events that are told. -/
def perform (m : Machine) (state : LogState) (disk : Disk) (now : Text) (settings : Value) :
    Command → Report
  | .tokens text => showTokens m text
  | .eval text path origin json =>
    match loadSheet m disk now settings path with
    | .error r => r
    | .ok (s, events) => (evalOn m state now settings s text origin json).after events
  | .cells path json =>
    match loadSheet m disk now settings (some path) with
    | .error r => r
    | .ok (s, events) => (cellsOf m state now settings s path json).after events

/-! ## Projects -/

/-- The folder of logs in a project folder. -/
def logFolder (folder : Text) : Text :=
  Path.join folder "logs"

/-- The journal in a project folder. -/
def journalPath (folder : Text) : Text :=
  Path.join (logFolder folder) "events.ndjson"

/-- What becomes of the events of a run in a project folder, or in none. -/
def logState (disk : Disk) (folder : Option Text) : LogState :=
  match folder with
  | none => .detached
  | some folder => if isFolder disk (journalPath folder) then .fails else .works

/-- The settings of a project folder. -/
def readSettings (m : Machine) (disk : Disk) (folder : Text) : Except Fault Value :=
  let path := Path.join folder Settings.fileName
  match disk path with
  | .absent => Settings.ofFile path none
  | .folder => .error .storage
  | .file octets => do Settings.ofFile path (some (← Yaml.ofText m.yaml (← fileText octets)))

/-- The settings for a run, or the report that ends it. A project must have a place for its logs,
and its settings must say how they are kept. -/
def openProject (m : Machine) (disk : Disk) (folder : Option Text) : Except Report Value :=
  match folder with
  | none => .ok (.map Settings.standard)
  | some folder =>
    match readSettings m disk folder with
    | .error f => .error (if isToldOfSettings f then .complain m f.message else .abort f)
    | .ok settings =>
      match Settings.logging settings with
      | .error f => .error (.abort f)
      | .ok _ => if isFile disk (logFolder folder) then .error (.abort .storage) else .ok settings

/-! ## Runs -/

/-- The version of the program. -/
def version : Text :=
  "sheetcalc, version 0.1.0\n"

/-- A reminder of the commands. -/
def help : Text :=
  "Usage: sheetcalc [--project DIR] COMMAND\n\n" ++
  "Commands:\n" ++
  "  tokens TEXT                                      Print the tokens of a formula.\n" ++
  "  eval TEXT [--sheet FILE] [--origin L] [--json]   Evaluate a formula.\n" ++
  "  cells FILE [--json]                              Evaluate all cells of a sheet file.\n"

/-- Runs the command that words name, in a project folder if one is given. -/
def runCommand (m : Machine) (disk : Disk) (now : Text) (folder : Option Text)
    (words : List Text) : Report :=
  match words with
  | [] => .usage
  | name :: words =>
    match commands.lookup name with
    | none => .usage
    | some options =>
      match openProject m disk folder with
      | .error r => r
      | .ok settings =>
        match readCommand disk name options words with
        | .wrong => .usage
        | .help => .answer 0 help
        | .faulty f => .abort f
        | .command c =>
          (perform m (logState disk folder) disk now settings c).inProject folder settings

/-- Runs the program on the words of a command line. -/
def run (m : Machine) (disk : Disk) (now : Text) (words : List Text) : Report :=
  match Arguments.read mainOptions words with
  | none => .usage
  | some a =>
    match (a.options.map (·.1)).filter (· ≠ ("--project" : Text)) with
    | name :: _ => .answer 0 (if name = "--version" then version else help)
    | [] =>
      let folder := a.value? "--project"
      if !folder.all isPath then .abort .nullInPath
      else if folder.all (isFolder disk) then runCommand m disk now folder a.rest
      else .usage

/-- The paths that words may name, and those of the files that belong to them. -/
def paths (words : List Text) : List Text :=
  words.flatMap fun word =>
    let named := (word :: ((Arguments.splitValue word).2).toList)
    named.flatMap fun p => [p, Path.join p Settings.fileName, logFolder p, journalPath p]

end FormulaSheet.CommandLine
