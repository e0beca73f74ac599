import LineEditor.CommandLine

/-! The program on a terminal and a file system. It only carries out what a dialogue asks for. -/
namespace LineEditor

partial def readLineBytes (input : IO.FS.Stream) (read : Text.Bytes) :
    IO (Option Text.Bytes) := do
  match (← input.read 1).toList with
  | [] => return if read.isEmpty then none else some read.reverse
  | byte :: _ =>
      if byte = newlineByte then return some read.reverse
      else readLineBytes input (byte :: read)

def readNextLine : IO NextLine := do
  try
    match ← readLineBytes (← IO.getStdin) [] with
    | some bytes => return .line (Text.decode bytes)
    | none => return .ended
  catch _ => return .failed

partial def readTypedBlock (read : List Text) : IO (Option (List Text)) := do
  match ← readNextLine with
  | .ended => return some read.reverse
  | .failed => return none
  | .line line =>
      if line = Source.terminator then return some read.reverse
      else readTypedBlock (line :: read)

def printLine (line : Text) : IO Bool := do
  try
    let output ← IO.getStdout
    output.putStrLn (String.ofList line)
    output.flush
    return true
  catch _ => return false

def fileErrorOf : IO.Error → FileError
  | .noFileOrDirectory .. => .notFound
  | _ => .refused

def loadFileBytes (name : Text) : IO (Except FileError Loaded) := do
  if FileName.isUnusable name then return .error .refused
  try
    let bytes ← IO.FS.readBinFile (String.ofList name)
    return .ok (.ofBytes bytes.toList)
  catch e => return .error (fileErrorOf e)

def temporaryName (name : Text) : IO String := do
  let directory := String.intercalate "/" ((FileName.parentComponents name).map String.ofList)
  let root := if FileName.isAbsolute name then "/" else ""
  let mark ← IO.rand 0 0xfffffffffffffff
  return root ++ (if directory.isEmpty then "." else directory) ++ "/.save_tmp_" ++ toString mark

def moveInPlace (temporary : String) (name : Text) : IO Unit := do
  try
    IO.FS.rename temporary (String.ofList name)
  catch e =>
    IO.FS.removeFile temporary
    throw e

def saveFileLines (name : Text) (lines : List Text) : IO (Except FileError Nat) := do
  if FileName.isUnusable name then return .error .refused
  let (bytes, size) := writeLines 0 lines
  let temporary ← temporaryName name
  try
    IO.FS.writeBinFile temporary ⟨bytes.toArray⟩
    moveInPlace temporary name
    return .ok size
  catch e => return .error (fileErrorOf e)

def Dialogue.perform {α : Type} : Dialogue α → IO α
  | done a => return a
  | readBlock next => do (next (← readTypedBlock [])).perform
  | print line next => do (next (← printLine line)).perform
  | load name next => do (next (← loadFileBytes name)).perform
  | save name lines next => do (next (← saveFileLines name lines)).perform

partial def converse (e : Editor) : IO Unit := do
  match ← readNextLine with
  | .ended => return
  | .failed => discard (e.report .cannotReadInput).perform
  | .line line =>
      match ← (e.execute line).perform with
      | (_, .quit) => return
      | (e, .proceed) => converse e

end LineEditor

def main (arguments : List String) : IO UInt32 := do
  match LineEditor.Request.read (arguments.map String.toList) with
  | .help =>
      IO.print LineEditor.helpText
      return 0
  | .version =>
      IO.print LineEditor.versionText
      return 0
  | .usageError =>
      IO.eprintln "usage: em [FILENAME]"
      return 2
  | .edit none =>
      LineEditor.converse .empty
      return 0
  | .edit (some name) =>
      LineEditor.converse (← (LineEditor.Editor.empty.openStartupFile name).perform)
      return 0
