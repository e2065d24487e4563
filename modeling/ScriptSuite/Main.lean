import ScriptSuite.CommandLine.Execution
import ScriptSuite.Report.Timestamp

/-!
# The program

The words of the command line become a request. The files that the request can reach are read, the
request is carried out on them, and what it changed is written back.
-/

namespace ScriptSuite.CommandLine

/-- The variables that the program and the interpreters see. -/
def seenVariables : List String :=
  ["PATH", "HOME", "TMPDIR", "LANG", "USER", interpreterVariable]

/-- The environment of the program. -/
def environmentNow : IO Environment := do
  let values ← seenVariables.mapM fun name => return (name, ← IO.getEnv name)
  return values.filterMap fun (name, value) => value.map fun v => (name, v)

/-- The time stamp of this moment, which is that of a file that was just made. -/
def timestampNow : IO String := do
  let (_, path) ← IO.FS.createTempFile
  let made ← path.metadata
  IO.FS.removeFile path
  return Timestamp.ofSeconds made.modified.sec.toNat

/-- Reads a file, or a directory with what is in it. A link to a directory is passed over. -/
partial def readTree (entry : IO.FS.DirEntry) : IO (Option FileTree) := do
  if ← entry.path.isDir then
    let entries ← entry.path.readDir
    let trees ← entries.toList.mapM fun e => do
      if (← e.path.symlinkMetadata).type == .symlink && (← e.path.isDir) then return none
      return (← readTree e).map fun t => (e.fileName, t)
    return some (.dir (trees.filterMap id))
  else if ← entry.path.pathExists then
    let bytes := (← IO.FS.readBinFile entry.path).toList
    return some (.file bytes (interpreterLine? (ofBytes bytes)).isSome)
  else return none
where
  /-- The characters of bytes. -/
  ofBytes (bytes : List UInt8) : List Char := bytes.map fun b => Char.ofNat b.toNat

/-- The names on a path from the root. -/
def wayOf (path : String) : List String :=
  (Path.components (Path.normalize path)).filterMap fun
    | .name s => some (String.ofList s)
    | _ => none

/-- The paths that a request names. -/
def Request.paths (r : Request) : List String :=
  match r.task with
  | .test o => o.path :: (o.output.toList ++ o.interpreter.toList)
  | .list o => [o.path]
  | .init o => o.output.toList
  | .completions o => o.output.toList

/-- The disk with what stands at a path, seen from a directory. -/
def addPlace (dir : String) (d : Disk) (path : String) : IO Disk := do
  let place := Path.join dir path
  match ← readTree { root := place, fileName := "." } <|> pure none with
  | some t => return { d with tree := FileTree.put t (wayOf place) d.tree }
  | none => return d

/-- The part of the disk that a request can reach: the directory for temporary files, the settings
in the directories above, the directory of the request and what it names outside of that. -/
def diskNow (env : Environment) (r : Request) : IO Disk := do
  let cwd := (← IO.currentDir).toString
  let dir := Path.join cwd (r.general.directory.getD ".")
  let above := (Disk.directoriesFrom cwd.length cwd).tail
  let settings := above.flatMap fun dir => Config.fileNames.map (Path.join dir)
  let start : Disk := {
    tree := FileTree.put (.dir []) (wayOf env.tempDir)
      (FileTree.put (.dir []) (wayOf cwd) (.dir []))
    cwd := wayOf cwd }
  (settings ++ cwd :: dir :: r.paths.map (Path.join dir)).foldlM (addPlace cwd) start

/-- Writes the files that changed and removes those that are gone. -/
def keepChanges (before after : Disk) : IO Unit := do
  let old := before.tree.files []
  let new := after.tree.files []
  for (way, bytes) in new do
    unless old.contains (way, bytes) do
      IO.FS.createDirAll (Disk.pathOf way.dropLast)
      IO.FS.writeBinFile (Disk.pathOf way) ⟨bytes.toArray⟩
  for (way, _) in old do
    unless new.any (fun f => f.1 = way) do
      IO.FS.removeFile (Disk.pathOf way)

/-- Tells why a command line is not carried out. -/
def tellProblem (p : UsageProblem) : IO UInt32 := do
  match p with
  | .help => IO.print helpText
  | .version => IO.print versionText
  | .nothingGiven => IO.eprint helpText
  | p => IO.eprint ("error: " ++ p.message ++ "\n\n" ++ helpText)
  return .ofNat p.exitCode

/-- Carries out the command line that some words make. -/
def runWords (words : List String) : IO UInt32 := do
  let environment ← environmentNow
  match Request.ofWords environment words with
  | .error p => tellProblem p
  | .ok r =>
    let d ← diskNow environment r
    let reply := r.carryOut { environment, timestamp := ← timestampNow } d
    keepChanges d reply.disk
    IO.print reply.output
    IO.eprint reply.errors
    return .ofNat reply.exit

end ScriptSuite.CommandLine

/-- Carries out the command line. -/
def main (words : List String) : IO UInt32 :=
  ScriptSuite.CommandLine.runWords words
