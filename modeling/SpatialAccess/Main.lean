import SpatialAccess.Program.Named

/-!
# Command line

The first argument names the program; the others are the files it reads. Tables are written below the
working directory.

* `main`: runs a program, prints its lines, writes its files, and names its error.
-/

namespace SpatialAccess

/-- The bytes of a file; nothing if it cannot be read. -/
def readArgument (path : String) : IO Argument := do
  try
    return some (← IO.FS.readBinFile path).toList
  catch _ =>
    return none

/-- Seconds with three places, from milliseconds. -/
def seconds (milliseconds : Nat) : String :=
  Decimal.withPoint 3 milliseconds

/-- A printed line; a timed one ends in the time taken. -/
def printed (milliseconds : Nat) : ReportLine → String
  | .plain text => text
  | .timed text => text ++ " in " ++ seconds milliseconds ++ " s"

/-- Writes a file and the folders above it. -/
def writeTable (path text : String) : IO Unit := do
  IO.FS.createDirAll ("/".intercalate (path.splitOn "/").dropLast)
  IO.FS.writeFile path text

/-- Runs a program on files. -/
def runProgram (program : List Argument → Report) (paths : List String) : IO UInt32 := do
  let arguments ← paths.mapM readArgument
  let start ← IO.monoMsNow
  let report := program arguments
  let code := report.exitCode.toUInt32
  let stop ← IO.monoMsNow
  for (path, text) in report.files do
    writeTable path text
  for line in report.lines do
    IO.println (printed (stop - start) line)
  if let some e := report.failure? then
    IO.eprintln ("Error: " ++ e.message)
  return code

/-- Runs the program that the first argument names. -/
def runNamed : List String → IO UInt32
  | name :: paths =>
    match programs.lookup name with
    | some program => runProgram program paths
    | none => do
      IO.eprintln s!"unknown program {name}"
      return 2
  | [] => do
    IO.eprintln ("programs: " ++ ", ".intercalate (programs.map Prod.fst))
    return 2

end SpatialAccess

def main (arguments : List String) : IO UInt32 :=
  SpatialAccess.runNamed arguments
