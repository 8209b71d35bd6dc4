import SpatialAccess.Facility.Document
import SpatialAccess.Gravity.Model
import SpatialAccess.Output.Folder
import SpatialAccess.Scoring.Ledger

/-!
# What a program does

A program is given the files of its arguments, prints lines, writes files, and may stop early.

* `ProgramError`: why a program stops.
* `Report`: what it has printed and written. `Session`: a program while it runs.
* `Session.report`: the report of a session, with the error if there was one.
-/

namespace SpatialAccess

/-- Why a program stops. -/
inductive ProgramError where
  | config (cause : ConfigError Float)
  | network (cause : NetworkError Float)
  | scenario (cause : ScenarioError Float)
  | create (cause : CreateError)
  | data (cause : DataError Float)
  | gravity (cause : GravityError Float)
  | surface (cause : SurfaceError Float)
  | scoring (cause : ScoringError)
  | output (cause : OutputError)

/-- Words for a program that stops. -/
def ProgramError.message : ProgramError → String
  | config cause => cause.message
  | network cause => cause.message
  | scenario cause => cause.message
  | create cause => cause.message
  | data cause => cause.message
  | gravity cause => cause.message
  | surface cause => cause.message
  | scoring cause => cause.message
  | output cause => cause.message

/-- A line that a program prints. -/
inductive ReportLine where
  | plain (text : String)
  /-- A line that ends in how long the program took up to there. -/
  | timed (text : String)
  deriving DecidableEq, Repr

/-- A line without the time. -/
def ReportLine.text : ReportLine → String
  | plain text => text
  | timed text => text

/-- What a program has printed and written. -/
structure Report where
  lines : List ReportLine := []
  /-- The text of every file, by path. -/
  files : List (String × String) := []
  failure? : Option ProgramError := none

/-- What a program hands back to whoever started it: zero unless it stopped early. -/
def Report.exitCode (r : Report) : Nat :=
  if r.failure?.isSome then 1 else 0

/-- A program while it runs. -/
abbrev Session := ExceptT ProgramError (StateM Report)

/-- The file of an argument; nothing for one that is not there. -/
abbrev Argument := Option (List UInt8)

namespace Session

/-- Prints a line. -/
def addLine (line : ReportLine) : Session Unit :=
  modify fun r => { r with lines := r.lines ++ [line] }

/-- Prints a line of text. -/
def print (text : String) : Session Unit :=
  addLine (.plain text)

/-- Goes on with a value, or stops. -/
def orStop {ε β : Type} (cause : ε → ProgramError) (x : Except ε β) : Session β :=
  ofExcept (x.mapError cause)

/-- Writes files. -/
def writeFiles (files : List (String × String)) : Session Unit :=
  modify fun r => { r with files := r.files ++ files }

/-- What a program has printed and written by its end, with the error if there was one. -/
def report (program : Session Unit) : Report :=
  match (ExceptT.run program).run {} with
  | (.ok (), r) => r
  | (.error e, r) => { r with failure? := some e }

end Session

/-- A line below the titles of a table. -/
def tableRule : String :=
  String.ofList (List.replicate 38 '-')

end SpatialAccess
