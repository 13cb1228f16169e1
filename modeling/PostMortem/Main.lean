import PostMortem.Inspector.Run

/-! # The inspector as a program

The files that a run can read are copied into a tree, the run takes place there, and a record that it cleared is
written back.
-/
set_option autoImplicit false

namespace PostMortem.Inspector

/-- Adds to a tree what stands at a path on disk: a file, a directory, or nothing. -/
def copyEntry (files : FileTree) (path : String) : IO FileTree := do
  try
    let bytes ← IO.FS.readBinFile path
    return files.withFile (.parse path) bytes.toList
  catch
    | .inappropriateType _ 21 _ => return files.withDirectory (.parse path)
    | _ => return files

/-- Adds to a tree what stands at a path and on the way to it. -/
def copyPath (files : FileTree) (path : String) : IO FileTree := do
  let parsed := Path.parse path
  let start := if parsed.isAbsolute then "/" else ""
  let mut files := files
  for n in [0:parsed.names.length] do
    files ← copyEntry files (start ++ String.intercalate "/" (parsed.names.take (n + 1)))
  return files

/-- Writes back the file at a path if a run changed it. -/
def writeBack (before after : FileTree) (path : String) : IO Unit := do
  match before.read (.parse path), after.read (.parse path) with
  | .ok old, .ok new => if old != new then IO.FS.writeBinFile path (ByteArray.mk new.toArray)
  | _, _ => return ()

/-- Copies the files that a run can read, and tells the path of the record file if the run comes to it. -/
def copyFiles (words : List String) : IO (FileTree × Option String) := do
  let home := (← IO.currentDir).toString
  let files := FileTree.fresh (Path.parse home).names
  match Request.parse words with
  | .inspect options =>
    let files ← match options.config with
      | some path => copyPath files path
      | none => pure files
    match options.loadConfig files with
    | .ok config =>
      let path := options.recordPath config
      return (← copyPath files path, some path)
    | .error _ => return (files, none)
  | _ => return (files, none)

end PostMortem.Inspector

open PostMortem Inspector in
/-- Runs the inspector on the files of this machine. -/
def main (words : List String) : IO UInt32 := do
  let (files, path) ← copyFiles words
  let outcome := run words files
  let stdout ← IO.getStdout
  stdout.write (ByteArray.mk outcome.output.toArray)
  stdout.flush
  if let some path := path then
    writeBack files outcome.files path
  let stderr ← IO.getStderr
  if outcome.exitCode = 2 then
    stderr.putStrLn "error: invalid command line"
  for entry in outcome.log do
    stderr.putStrLn (outcome.form.line entry)
  return UInt32.ofNat outcome.exitCode
