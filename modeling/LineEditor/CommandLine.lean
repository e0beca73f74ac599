import LineEditor.Session

/-! The arguments of the program: at most one file name, and two options that print and do no more.
They are read from the left, and the first option or mistake decides. -/
namespace LineEditor

inductive Request where
  | help
  | version
  | edit (filename : Option Text)
  | usageError
  deriving DecidableEq, Repr

namespace Request

def ofShort : Char → Request
  | 'h' => help
  | 'V' => version
  | _ => usageError

def readFrom : Option Text → Bool → List Text → Request
  | filename, _, [] => edit filename
  | filename, optionsEnded, argument :: more =>
      if filename = some [] then usageError
      else if !optionsEnded && argument = ['-', '-'] then readFrom filename true more
      else if !optionsEnded && argument = "--help".toList then help
      else if !optionsEnded && argument = "--version".toList then version
      else match optionsEnded, argument with
        | false, '-' :: '-' :: _ => usageError
        | false, '-' :: c :: _ => ofShort c
        | _, _ => if filename.isNone then readFrom (some argument) optionsEnded more else usageError

def read (arguments : List Text) : Request :=
  match readFrom none false arguments with
  | edit (some []) => usageError
  | request => request

end Request

def versionText : String := "em 0.1.0\n"

def helpText : String :=
  "A line-oriented text editor\n\n" ++
  "Usage: em [FILENAME]\n\n" ++
  "Arguments:\n" ++
  "  [FILENAME]  File to edit. Remembered as the default for `w` even if it does not exist yet\n" ++
  "\n" ++
  "Options:\n" ++
  "  -h, --help     Print help\n" ++
  "  -V, --version  Print version\n"

structure ProgramResult where
  status : Nat
  output : Text
  surroundings : Surroundings

def editSession (filename : Option Text) (s : Surroundings) : ProgramResult :=
  let (e, printed, s) := match filename with
    | some name => (Editor.empty.openStartupFile name).turn s
    | none => (Editor.empty, [], s)
  let (steps, _, s) := session e s
  ⟨0, Text.joinLines '\n' (printed ++ steps.flatMap (·.printed)), s⟩

def runProgram (arguments : List Text) (s : Surroundings) : ProgramResult :=
  match Request.read arguments with
  | .help => ⟨0, helpText.toList, s⟩
  | .version => ⟨0, versionText.toList, s⟩
  | .usageError => ⟨2, [], s⟩
  | .edit filename => editSession filename s

end LineEditor
