import LineEditor.Text.Utf8

/-! How bytes become lines. A stream is read from its front, line by line; a file is there as a whole
and is cut at its newlines. Either way a line is decoded on its own, so a broken character ends with
its line. -/
namespace LineEditor

def newlineByte : UInt8 := 10

def takeLine : Text.Bytes → Text.Bytes × Text.Bytes
  | [] => ([], [])
  | b :: bytes =>
      if b = newlineByte then ([b], bytes)
      else
        let (line, rest) := takeLine bytes
        (b :: line, rest)

def withoutNewline (line : Text.Bytes) : Text.Bytes :=
  if line.getLast? = some newlineByte then line.dropLast else line

def readLine? (bytes : Text.Bytes) : Option (Text × Text.Bytes) :=
  let (line, rest) := takeLine bytes
  if line.isEmpty then none else some (Text.decode (withoutNewline line), rest)

def readLines : Nat → Text.Bytes → List Text
  | 0, _ => []
  | count + 1, bytes =>
      match readLine? bytes with
      | some (line, rest) => line :: readLines count rest
      | none => []

def linesOfBytes (bytes : Text.Bytes) : List Text := readLines bytes.length bytes

def finishedLines (bytes : Text.Bytes) : Text.Bytes :=
  (bytes.reverse.dropWhile (· ≠ newlineByte)).reverse

def newlinesFrom : Nat → Text.Bytes → List Nat
  | _, [] => []
  | position, b :: bytes =>
      if b = newlineByte then position :: newlinesFrom (position + 1) bytes
      else newlinesFrom (position + 1) bytes

def cutAt (bytes : Text.Bytes) : Nat → List Nat → List Text.Bytes
  | start, [] => if start < bytes.length then [bytes.drop start] else []
  | start, newline :: newlines =>
      (bytes.drop start).take (newline - start) :: cutAt bytes (newline + 1) newlines

def linesOfFile (bytes : Text.Bytes) : List Text :=
  (cutAt bytes 0 (newlinesFrom 0 bytes)).map Text.decode

end LineEditor
