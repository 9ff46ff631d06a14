import Crosslink.CommandLine.Run

/-!
# The program

Reads the variables and the files of the working directory, runs the command line on them,
prints what it says and writes the files that it has changed.
-/

namespace Crosslink

/-- The files below a directory, as entries below given names. -/
partial def readEntries (names : List String) (entries : Array IO.FS.DirEntry) :
    IO (List (List String × Entry)) := do
  let mut found := []
  for entry in entries do
    let here := names ++ [entry.fileName]
    if ← entry.path.isDir then
      found := found ++ (here, .directory) :: (← readEntries here (← entry.path.readDir))
    else
      let bytes ← IO.FS.readBinFile entry.path
      found := found ++ [(here, .file bytes.toList)]
  return found

/-- The variables that the system hands over, one after the other with zeros between. -/
def readEnvironment : IO Environment := do
  let bytes ← try IO.FS.readBinFile "/proc/self/environ" catch _ => pure ByteArray.empty
  let entries := (bytes.toList.splitOn 0).filterMap fun v =>
    match Text.Utf8.decode v with
    | .ok cs =>
      let name := cs.takeWhile (· != '=')
      if name.length < cs.length then
        some (String.ofList name, String.ofList (cs.drop (name.length + 1)))
      else none
    | .error _ => none
  return ⟨entries⟩

/-- Write files below the working directory. -/
def writeFiles (files : List (List String × List UInt8)) : IO Unit := do
  for (names, bytes) in files do
    IO.FS.createDirAll (String.intercalate "/" ("." :: names.dropLast))
    IO.FS.writeBinFile (String.intercalate "/" names) bytes.toByteArray

end Crosslink

/-- Run the command line on the working directory. -/
def main (args : List String) : IO UInt32 := do
  let here ← IO.currentDir
  let tree : Crosslink.FileTree := ⟨← Crosslink.readEntries [] (← here.readDir)⟩
  let ending := Crosslink.CommandLine.execute args (← Crosslink.readEnvironment) tree
  for line in ending.run.output do
    IO.println line
  for line in ending.run.errors do
    IO.eprintln line
  Crosslink.writeFiles (Crosslink.CommandLine.changedFiles tree ending.run.workspace.tree)
  match ending.fault with
  | some f => IO.eprintln ("Fault: " ++ f.text)
  | none => pure ()
  return ending.code.toUInt32
