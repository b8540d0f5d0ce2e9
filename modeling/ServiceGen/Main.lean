import ServiceGen.CommandLine.Program

/-!
The command line. The directories that the program can be told of are read into a tree, the program
runs on the tree, and the files that it wrote there are written to the disk.
-/
namespace ServiceGen.Main

open Files

def path (place : Place) : String := "/" ++ String.intercalate "/" place

/-- The place that a path on the disk leads to. -/
def placeOf (path : String) : Place := (components path).filterMap Component.name?

/-- What is in directories and below them. What cannot be read is passed over. -/
partial def gather (place : Place) (found : Array IO.FS.DirEntry) : IO (List (Place × Entry)) := do
  let mut entries := []
  for entry in found do
    let place := place ++ [entry.fileName]
    try
      if ← entry.path.isDir then
        let below ← gather place (← entry.path.readDir)
        entries := below ++ (place, .directory) :: entries
      else
        entries := (place, .file (← IO.FS.readBinFile entry.path)) :: entries
    catch _ => pure ()
  return entries

/-- The directory of a path with all that is below it, if there is one, and those above it with
their variables. -/
def gatherAround (directory : String) : IO (List (Place × Entry)) := do
  try
    let root ← IO.FS.realPath directory
    let place := placeOf root.toString
    let mut entries ← gather place (← root.readDir)
    for length in List.range place.length do
      let above := place.take length
      entries := entries ++ [(place.take (length + 1), .directory)]
      try
        let file := above ++ [EnvironmentFile.fileName]
        entries := entries ++ [(file, .file (← IO.FS.readBinFile (path file)))]
      catch _ => pure ()
    return entries
  catch _ => return []

/-- The values of all settings in the environment of the process. -/
def readEnvironment : IO Environment := do
  let mut values := []
  for setting in Variable.all do
    if let some value ← IO.getEnv setting.key then values := (setting.key, value) :: values
  let read := values
  return fun key => (read.find? (·.1 == key)).map Prod.snd

/-- Entries for places that have none yet. -/
def furtherTo (entries around : List (Place × Entry)) : List (Place × Entry) :=
  around.filter fun entry => !entries.any (·.1 == entry.1)

/-- The tree that the program runs on: the directory of the process, and the other directories that
are named by an argument or by the environment. -/
def readTree (env : Environment) (arguments : List String) : IO FileTree := do
  let current := (← IO.currentDir).toString
  let tree : FileTree := ⟨← gatherAround current, placeOf current, []⟩
  let env := EnvironmentFile.complete env tree
  let given := (Arguments.ofList arguments).toOption.getD .empty
  let mut entries := tree.entries
  for option in [ValueOption.directory, ValueOption.output] do
    if let some other := given.valueIn env option then
      let around ← gatherAround (join current other)
      entries := entries ++ furtherTo entries around
  return { tree with entries }

def writeTree (tree : FileTree) : IO Unit := do
  for place in tree.journal do
    if let some (.file content) := tree.entry? place then
      IO.FS.createDirAll (path place.dropLast)
      IO.FS.writeBinFile (path place) content

end ServiceGen.Main

/-- Runs the program for the arguments of the command line. -/
def main (arguments : List String) : IO UInt32 := do
  let env ← ServiceGen.Main.readEnvironment
  let tree ← ServiceGen.Main.readTree env arguments
  let (tree, reply) := ServiceGen.Program.run ⟨env, 1, none⟩ arguments tree
  ServiceGen.Main.writeTree tree
  (← IO.getStderr).putStr reply.errors
  (← IO.getStdout).putStr reply.output
  return reply.exit.toUInt32
