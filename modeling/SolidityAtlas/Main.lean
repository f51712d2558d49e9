import SolidityAtlas.CommandLine.Report

/-! The program on the command line: reads the folder of the workspace and prints the report. -/

namespace SolidityAtlas

/-- Whether a file belongs to a workspace: a source, or the syntax tree of one. -/
def isWorkspaceFile (name : String) : Bool :=
  name.endsWith Folder.sourceSuffix || name.endsWith (Folder.sourceSuffix ++ Folder.treeSuffix)

/-- What lies in a folder at any depth. `names` is the way to it, last name first. -/
partial def readEntries (path : String) (names : List String)
    : IO (List (List String × FolderEntry)) := do
  let place ← IO.FS.realPath path
  let mut entries := []
  for child in ← place.readDir do
    let way := child.fileName :: names
    if ← child.path.isDir then
      entries := entries ++ (way.reverse, .folder) :: (← readEntries child.path.toString way)
    else if isWorkspaceFile child.fileName then
      let bytes ← IO.FS.readBinFile child.path
      entries := entries ++ [(way.reverse, .file bytes.toList)]
  return entries

/-- The folder at a path, if there is one. -/
def readFolder (path : String) : IO (Option Folder) := do
  let path := Path.ofText path
  try
    let entries ← readEntries path.text []
    return some { path := path, entries := entries }
  catch _ => return none

/-- The report on the words of the command line. -/
def reportOn (arguments : List String) : IO Report := do
  match Request.ofArguments arguments with
  | none => return .misuse
  | some .help => return .answer usage
  | some (.invocation invocation) =>
      let here ← IO.currentDir
      match ← readFolder invocation.workspace with
      | none => return .misuse
      | some folder => return invocation.report .default (.ofText here.toString) folder

end SolidityAtlas

open SolidityAtlas in
/-- Runs the program and gives its exit code. -/
def main (arguments : List String) : IO UInt32 := do
  let report ← reportOn arguments
  IO.print report.output
  match report with
  | .misuse => IO.eprint usage
  | .breakdown _ => IO.eprintln "malformed input"
  | .answer _ | .refusal _ => pure ()
  return report.exitCode.toUInt32
