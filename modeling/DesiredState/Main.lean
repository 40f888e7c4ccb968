import DesiredState.CommandLine.Run

/-!
# The command line

**Rule.** The arguments are read, the paths that the command reads are copied from
the file system, and the command runs on the copy. What it prints and logs is shown
in its order; a failure is shown last.
-/

namespace DesiredState

/-- The bytes of a file; one that cannot be read counts as a file without text. -/
def readBytes (entry : IO.FS.DirEntry) : IO ByteArray := do
  try
    IO.FS.readBinFile entry.path
  catch _ => return ⟨#[0xff]⟩

/-- Copy a file, or a directory with all that is below it. Links are followed at the
top only. -/
partial def copyTree (entry : IO.FS.DirEntry) (follow : Bool) : IO (Option FileTree) := do
  try
    let path := entry.path
    let found ← if follow then path.metadata else path.symlinkMetadata
    match found.type with
    | .file => return some (.file (← readBytes entry))
    | .dir =>
        let mut entries := []
        for child in ← path.readDir do
          if let some tree ← copyTree child false then
            entries := (child.fileName, tree) :: entries
        return some (.directory entries)
    | _ => return some .special
  catch _ => return none

/-- Copy what some paths lead to. -/
def copyPaths (host : Host) (paths : List Path) : IO Host := do
  let cwd ← IO.currentDir
  let mut disk := host.disk
  for path in paths do
    if let some tree ← copyTree ⟨cwd, path.text⟩ true then
      disk := disk.put path tree
  return { host with disk := disk }

/-- The number of processors. -/
def countProcessors : IO Nat := do
  try
    let text ← IO.FS.readFile "/proc/cpuinfo"
    let count := (Text.lines text).countP fun line => (Text.after? line "processor").isSome
    return max 1 count
  catch _ => return 1

/-- The host, with a copy of the paths that a command reads. -/
def hostFor (invocation : Invocation) : IO Host := do
  let cwd := Path.mk (← IO.currentDir).toString
  let names := cwd.components.filterMap fun
    | .normal name => some name
    | _ => none
  -- The nodes are compiled one after another here, so no pool is ever started.
  let host : Host :=
    ⟨Disk.empty names, ← IO.getEnv "HOME", ← countProcessors, fun _ => none⟩
  let host ← copyPaths host invocation.inputPaths
  copyPaths host (invocation.templatePaths host)

/-- The terminal shows colours, unless the user wants none. -/
def findPalette : IO Console.Palette := do
  let refused := (← IO.getEnv "NO_COLOR").isSome
  return ⟨!refused && (← (← IO.getStdout).isTty)⟩

/-- Show what a command prints and logs. -/
def emit (level : Log.Level) : Console.Emission → IO Unit
  | .print text => IO.print text
  | .complain text => IO.eprint text
  | .record entry => do
      if entry.isKeptAt level then
        IO.eprintln
          ("[" ++ Console.padRight 5 entry.level.name ++ " " ++ entry.source ++ "] " ++
            entry.message)

/-- Run an invocation. -/
def runInvocation (invocation : Invocation) : IO UInt32 := do
  let host ← hostFor invocation
  let outcome := invocation.run host (← findPalette)
  outcome.emissions.forM (emit invocation.logLevel)
  match outcome.failure with
  | none => return 0
  | some failure =>
      IO.eprintln ("Error: " ++ failure.message)
      return 1

end DesiredState

/-- Run the command that the arguments ask for. -/
def main (arguments : List String) : IO UInt32 := do
  match DesiredState.Invocation.ofArguments (← IO.getEnv "KEEL_TEMPLATES") arguments with
  | .ok invocation => DesiredState.runInvocation invocation
  | .error cause =>
      IO.eprintln ("error: " ++ cause.name)
      return 2
