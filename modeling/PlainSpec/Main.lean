import PlainSpec.Command.Run

/-!
# The program

The outer layer of the command line: it looks up the files that a command asks for, runs the command
on them, and prints what it ends with.

## Main definitions

* `Program.gather`: the files that a command asks for.
* `main`: the program.
-/

namespace PlainSpec.Program

/-- The folders and files at an entry of a folder, without what is in the files.  Links are left
out. -/
partial def outline (entry : IO.FS.DirEntry) : IO Node := do
  if ← entry.path.isDir then
    let inner ← entry.path.readDir
    let nodes ← inner.toList.filterMapM fun e => do
      try
        match (← e.path.symlinkMetadata).type with
        | .dir | .file => return some (e.fileName.toList, ← outline e)
        | _ => return none
      catch _ => return none
    return .folder nodes
  else
    let _ ← entry.path.metadata
    return .file .empty

/-- What a lookup gives.  Whatever goes wrong, nothing is found. -/
def lookup (look : IO Node) : IO (Except AccessError Node) := do
  try
    return .ok (← look)
  catch _ => return .error .missing

/-- The folders and files at a path. -/
def outlineAt (p : Path) : IO (Except AccessError Node) := do
  let here ← IO.currentDir
  lookup (outline ⟨here, p.text.toString⟩)

/-- The content of the file at a path. -/
def contentAt (p : Path) : IO (Except AccessError Node) :=
  lookup do return .file (← IO.FS.readBinFile p.text.toString)

/-- The storage in which some paths were looked up. -/
def storageOf (found : List (Path × Except AccessError Node)) : Storage :=
  ⟨fun p => (found.lookup p).getD (.error .missing)⟩

/-- The files that a command asks for. -/
def gather (i : Invocation) : IO Storage := do
  let top ← outlineAt i.root
  let paths := configPath i.root :: (storageOf [(i.root, top)]).requested i
  let found ← paths.mapM fun p => return (p, ← contentAt p)
  return storageOf (found ++ [(i.root, top)])

/-- Whether output is to be in colour. -/
def wantsColour : IO Bool := do
  match ← IO.getEnv "FORCE_COLOR" with
  | some level => return level ≠ "0" && level ≠ "false"
  | none => return (← IO.getEnv "NO_COLOR").isNone && (← (← IO.getStdout).isTty)

/-- Runs the program with the given arguments. -/
def run (arguments : List Text) : IO Ending := do
  match Invocation.read arguments with
  | .error stop => return stop.ending
  | .ok i => return (i.run (← gather i) (← wantsColour)).ending

end PlainSpec.Program

open PlainSpec in
/-- The program. -/
def main (arguments : List String) : IO UInt32 := do
  let ending ← Program.run (arguments.map String.toList)
  IO.print ending.output.toString
  if let some message := ending.error then
    IO.eprintln ("Error: " ++ message.toString)
  if ending.code = 2 then
    IO.eprintln usage.toString
  return ending.code.toUInt32
