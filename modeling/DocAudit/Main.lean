import DocAudit.Command.Run

/-!
# The program

Runs a command line on the files below the current directory, prints what it says, and writes the files
that are new or other than before. Everything else is decided by `runCommandLine`.

The program takes the day from the variable `DOC_AUDIT_TODAY`; without it no deadline has passed. It asks
neither git nor the network, so that commands about changes fail and external links count as not found.
-/

namespace DocAudit

open Text

/-- The day that the program takes for the current one. -/
def currentDay : IO Date := do
  let written := (← IO.getEnv "DOC_AUDIT_TODAY").getD ""
  return ((Date.read? written.toList).or (Date.of? 1 1 1)).getD ⟨1, 1, 1, rfl⟩

/-- The current directory and everything below it. Files that cannot be read are left out. -/
def readFiles : IO (Path × FileTree) := do
  let here ← IO.currentDir
  let cwd := Path.ofText here.toString.toList
  let mut tree := ((({} : FileTree).addDir cwd.names).getD {})
  for file in ← here.walkDir do
    let names := (Path.ofText file.toString.toList).names
    if ← file.isDir then tree := (tree.addDir names).getD tree
    else
      try
        let content ← IO.FS.readBinFile file
        tree := ((tree.addDir names.dropLast).getD tree).put names (.file content.toList)
      catch _ => pure ()
  return (cwd, tree)

/-- Writes the files that are new or other than before. Links are not made. -/
def writeFiles (before after : FileTree) : IO Unit :=
  for (names, entry) in after.entries do
    let name := String.ofList (Path.text { root := ['/'], names })
    unless before.find? names == some entry do
      match entry with
      | .dir => IO.FS.createDirAll name
      | .file content => IO.FS.writeBinFile name (ByteArray.mk content.toArray)
      | .link _ => pure ()

end DocAudit

open DocAudit

/-- Runs the command line and ends with its exit code. -/
def main (args : List String) : IO UInt32 := do
  let (cwd, tree) ← readFiles
  let (ending, after) := runCommandLine
    { tree, cwd, git := fun _ => .error "git is not asked".toList
      urlFault := fun _ => some "the network is not asked".toList, today := ← currentDay }
    (args.map String.toList)
  writeFiles tree after
  match ending with
  | .ended code stdout stderr =>
    (← IO.getStdout).putStr (String.ofList stdout)
    (← IO.getStderr).putStr (String.ofList stderr)
    return code.toUInt32
  | .escaped _ =>
    (← IO.getStderr).putStr "error: the configuration or a document cannot be read\n"
    return 1
