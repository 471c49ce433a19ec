import ReleaseNotes.CommandLine.Session

/-!
Files and environment variables are those of the machine. What git and the server answer, and the
date, come from standard input as one line of JSON.
-/

namespace ReleaseNotes.CommandLine

def variableNames : List String :=
  ["CHANGELOG_COMMIT_TYPES", "CHANGELOG_TEMPLATE_PATH", "CHANGELOG_PATH", "GITHUB_REPOSITORY",
    "GITHUB_TOKEN", "GITHUB_API_URL", "GITHUB_WORKSPACE"]

def readEnvironment : IO Settings.Environment :=
  variableNames.filterMapM fun name => do
    return (← IO.getEnv name).map fun value => (name.text, value.text)

/-- What lies inside a Git folder is of no interest. -/
partial def readFolder (place : String) (tree : FileTree) : IO FileTree := do
  let mut tree := tree.plant (.ofText place.text) .folder
  for entry in ← (← IO.FS.realPath place).readDir do
    let name := place ++ "/" ++ entry.fileName
    if ← (← IO.FS.realPath name).isDir then
      if entry.fileName == ".git" then
        tree := tree.plant (.ofText name.text) .folder
      else
        tree ← readFolder name tree
    else
      let content ← IO.FS.readBinFile name
      tree := tree.plant (.ofText name.text) (.file content.toList)
  return tree

def readTree : IO FileTree := do
  let here := (← IO.currentDir).toString
  let base := (Path.ofText here.text).names.reverse
  if proper : FileTree.IsProper base then readFolder here (.emptyAt base proper)
  else throw (IO.userError "the working folder has no name")

def writeEntry (place : Location) (entry : Entry) : IO Unit := do
  let name := Text.string (FileTree.placeText place)
  match entry with
  | .folder => IO.FS.createDirAll name
  | .file content => IO.FS.writeBinFile name ⟨content.toArray⟩

/-- Folders before what they hold, so the shorter places first. -/
def writeChanges (before after : FileTree) : IO Unit := do
  let changed := after.entries.filter fun (place, entry) => before.entry? place != some entry
  let ordered := changed.mergeSort fun a b => a.1.length ≤ b.1.length
  for (place, entry) in ordered do
    writeEntry place entry

def runOn (arguments : List String) (session : Json) (today : Date) : IO UInt32 := do
  let tree ← readTree
  let world := Session.world tree (← readEnvironment) today session
  let result := invoke (arguments.map String.text) world
  (← IO.getStdout).putStr (result.out.string)
  (← IO.getStderr).putStr (result.err.string)
  writeChanges tree result.tree
  return UInt32.ofNat result.code.number

end ReleaseNotes.CommandLine

open ReleaseNotes

def main (arguments : List String) : IO UInt32 := do
  let line := (← (← IO.getStdin).getLine).text
  match Json.read line with
  | .error failure =>
      (← IO.getStderr).putStrLn (Text.string (failure.message line))
      return 2
  | .ok session =>
      match CommandLine.Session.date ((session.field? "clock".text).getD .null) with
      | .error error =>
          (← IO.getStderr).putStrLn (error.message.string)
          return 2
      | .ok today => CommandLine.runOn arguments session today
