import LineEditor.Text.Whitespace
import LineEditor.Unicode.Property
import LineEditor.Unicode.CaseFolding

/-! What can be wrong with a pattern, the flags under which its parts are read, and the characters
that count for nothing under the flag `x`. -/
namespace LineEditor.Regex

inductive Refusal where
  | groupUnopened
  | groupUnclosed
  | groupNameInvalid
  | groupNameRepeated
  | lookAround
  | flagsUnclosed
  | flagsMissing
  | flagUnknown
  | flagRepeated
  | negationDangling
  | repetitionMissing
  | countUnclosed
  | countMissing
  | countTooLarge
  | countDisordered
  | escapeUnfinished
  | escapeUnknown
  | backReference
  | hexMissing
  | hexInvalid
  | wordEdgeUnknown
  | classUnclosed
  | classMember
  | classRange
  | propertyUnknown
  | unicodeDisabled
  | invalidUtf8
  | tooDeep
  | tooLarge
  deriving DecidableEq, Repr

abbrev Reading (α : Type) := Except Refusal α

structure Flags where
  ignoreCase : Bool := false
  multiLine : Bool := false
  dotAll : Bool := false
  swapGreed : Bool := false
  unicode : Bool := true
  crlf : Bool := false
  verbose : Bool := false
  deriving DecidableEq, Repr

namespace Flags

def isFlag (c : Char) : Bool := ['i', 'm', 's', 'U', 'u', 'R', 'x'].contains c

def set (flags : Flags) (on : Bool) (c : Char) : Flags :=
  match c with
  | 'i' => { flags with ignoreCase := on }
  | 'm' => { flags with multiLine := on }
  | 's' => { flags with dotAll := on }
  | 'U' => { flags with swapGreed := on }
  | 'u' => { flags with unicode := on }
  | 'R' => { flags with crlf := on }
  | 'x' => { flags with verbose := on }
  | _ => flags

def apply (flags : Flags) (letters : Text) : Flags :=
  let on := letters.takeWhile (· ≠ '-')
  let off := (letters.dropWhile (· ≠ '-')).drop 1
  off.foldl (set · false) (on.foldl (set · true) flags)

/-- No letter stands twice, be it on one side of the dash or on both, and a dash is not the last. -/
def check (letters : Text) : Reading Unit :=
  if letters.any fun c => c ≠ '-' && !isFlag c then .error .flagUnknown
  else if !letters.Nodup then .error .flagRepeated
  else if letters.getLast? = some '-' then .error .negationDangling
  else .ok ()

end Flags

def dropTrivia (inComment : Bool) : Text → Text
  | [] => []
  | c :: t =>
      if inComment then dropTrivia (c ≠ '\n') t
      else if Text.isWhitespace c then dropTrivia false t
      else if c = '#' then dropTrivia true t
      else c :: t

def Flags.skip (flags : Flags) (t : Text) : Text :=
  if flags.verbose then dropTrivia false t else t

/-- The next character behind white space. The sign of a comment is passed over once as well, but
not the comment. -/
def peekPastSpace (inComment : Bool) : Text → Option Char
  | [] => none
  | c :: t =>
      if Text.isWhitespace c then peekPastSpace inComment t
      else if !inComment && c = '#' then peekPastSpace true t
      else some c

def Flags.peek (flags : Flags) (t : Text) : Option Char :=
  if flags.verbose then peekPastSpace false t else t.head?

/-- The members of a set under the flags: closed under case if case is ignored, and then turned
around if `negated`. Without Unicode a set may hold ASCII characters only, since bytes past those
are no text on their own. -/
def Flags.close (flags : Flags) (negated : Bool) (s : CharSet) : Reading CharSet :=
  if flags.unicode then
    let s := if flags.ignoreCase then s.foldCase else s
    .ok (if negated then s.compl else s)
  else
    let s := if flags.ignoreCase then s.foldCaseAscii else s
    let s := if negated then ⟨CharSet.gaps 0xff 0 s.intervals⟩ else s
    if s.isAscii then .ok s else .error .invalidUtf8

end LineEditor.Regex
