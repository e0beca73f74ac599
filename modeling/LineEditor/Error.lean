import LineEditor.Text.Basic

/-! What can go wrong with a command, and the words in which the editor says so. -/
namespace LineEditor

inductive EditorError where
  | invalidAddress
  | unknownCommand
  | invalidSuffix
  | invalidSyntax
  | invalidDelimiter
  | noPreviousPattern
  | invalidPattern
  | noMatch
  | noFilename
  | cannotOpen
  | cannotWrite
  | cannotReadInput
  | cannotWriteOutput
  | modified
  /-- The address behind the largest one was asked for. -/
  | addressOverflow
  deriving DecidableEq, Repr

inductive ErrorKind where
  | address
  | unknownCommand
  | io
  | pattern
  | noMatch
  | modifiedWarning
  deriving DecidableEq, Repr

namespace EditorError

def kind : EditorError → ErrorKind
  | invalidAddress | addressOverflow => .address
  | unknownCommand | invalidSuffix | invalidSyntax => .unknownCommand
  | invalidDelimiter | noPreviousPattern | invalidPattern => .pattern
  | noMatch => .noMatch
  | noFilename | cannotOpen | cannotWrite | cannotReadInput | cannotWriteOutput => .io
  | modified => .modifiedWarning

def message : EditorError → String
  | invalidAddress => "invalid address"
  | unknownCommand => "unknown command"
  | invalidSuffix => "invalid command suffix"
  | invalidSyntax => "invalid command syntax"
  | invalidDelimiter => "invalid pattern delimiter"
  | noPreviousPattern => "no previous pattern"
  | invalidPattern => "invalid regular expression"
  | noMatch => "no match"
  | noFilename => "no current filename"
  | cannotOpen => "cannot open input file"
  | cannotWrite => "cannot write to file"
  | cannotReadInput => "cannot read input"
  | cannotWriteOutput => "cannot write output"
  | modified => "warning: file modified"
  | addressOverflow => "address overflow"

end EditorError

end LineEditor
