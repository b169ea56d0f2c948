import ReportQuery.Command
import Std.Time.Zoned

/-!
# The program

Gathers what a run finds, runs it, and carries out what it leaves behind. There
is no connection to the report service: a report that is not in the cache
cannot be downloaded.
-/

namespace ReportQuery.Program

/-- The variables of the process that matter to a run. -/
def readEnvironment : IO Environment := do
  let values ← Environment.variableNames.mapM fun name => do
    return (← IO.getEnv name).map fun value => (name, value)
  return { bindings := values.filterMap id }

/-- The directories that a path goes through. -/
def directoriesOf (files : Files) (path : String) : List String :=
  let parts := path.splitOn "/"
  (List.range parts.length).map fun n =>
    files.locate (Text.join "/" (parts.take n))

/-- The files with the text of another one, when it can be read. -/
def addFile (files : Files) (path : String) : IO Files := do
  try
    let text ← IO.FS.readFile (Path.join files.directory path)
    let known := { files with directories := directoriesOf files path ++
      files.directories }
    return known.put (files.locate path) text
  catch _ =>
    return files

/-- A moment of the file system in nanoseconds. -/
def nanoseconds (time : IO.FS.SystemTime) : Int :=
  time.sec * ReportStore.second + time.nsec.toNat

/-- The present moment in nanoseconds. -/
def readClock : IO Int := do
  return (← Std.Time.Timestamp.now).toNanosecondsSinceUnixEpoch.val

/-- The day of the calendar. -/
def readDay : IO Day := do
  let date ← Std.Time.PlainDate.now
  let civil : Calendar.CivilDate :=
    ⟨date.year, date.month.val.toNat, date.day.val.toNat⟩
  return (Day.ofCivil? civil).getD Day.epoch

/-- The stored reports of a directory. -/
def readReports (directory : String) : IO (List StoredFile) := do
  try
    let entries ← (← IO.FS.realPath directory).readDir
    entries.toList.mapM fun entry => do
      let content ← IO.FS.readBinFile entry.path
      let modified := (← entry.path.metadata).modified
      return {
        name := entry.fileName, content := content.data.toList
        modified := nanoseconds modified }
  catch _ =>
    return []

/-- All of the standard input. -/
partial def readInput (input : IO.FS.Stream) (before : String) : IO String := do
  let line ← input.getLine
  if line.isEmpty then return before else readInput input (before ++ line)

/-- What a run with some options finds. -/
def readSurroundings (options : Options) : IO Surroundings := do
  let environment ← readEnvironment
  let files : Files := { directory := (← IO.currentDir).toString }
  let files ← (Command.settingsFiles environment options).foldlM addFile files
  let now ← readClock
  let today ← readDay
  let input ←
    if options.script.isSome then pure "" else readInput (← IO.getStdin) ""
  match Command.settings environment files options with
  | .error _ => return { environment, files, input, today, now }
  | .ok settings =>
    let files ← addFile files (settings.catalog.file environment)
    let directory := files.locate (settings.cache.path environment)
    let caches := [(directory, ← readReports directory)]
    return { environment, files, caches, input, today, now }

/-- Write the files that a run has changed. -/
def writeFiles (before after : Files) : IO Unit := do
  for (path, content) in after.entries do
    if before.entries.lookup path != some content then
      IO.FS.writeFile path content

/-- Write the reports that a run has stored. -/
def writeReports (now : Int) (caches : List (String × List StoredFile)) :
    IO Unit := do
  for (directory, reports) in caches do
    for report in reports do
      if report.modified = now then
        IO.FS.createDirAll directory
        IO.FS.writeBinFile (Path.join directory report.name)
          ⟨report.content.toArray⟩

/-- Answers no request. -/
def unreachable : Transport :=
  fun _ => .error (.network "there is no connection")

/-- The options of a run, or those of a run that does nothing else than
print. -/
def optionsOf (arguments : List String) : Options :=
  match Invocation.ofArguments arguments with
  | .run options => options
  | _ => { script := some "" }

end ReportQuery.Program

open ReportQuery in
/-- Run the command and end with its status. -/
def main (arguments : List String) : IO UInt32 := do
  let surroundings ← Program.readSurroundings (Program.optionsOf arguments)
  let execution := Command.run surroundings Program.unreachable arguments
  (← IO.getStdout).putStr execution.output
  Program.writeFiles surroundings.files execution.files
  Program.writeReports surroundings.now execution.caches
  match execution.error with
  | some error => IO.eprintln ("Error: " ++ error.message)
  | none => pure ()
  return UInt32.ofNat execution.code
