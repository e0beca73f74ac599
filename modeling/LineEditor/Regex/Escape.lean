import LineEditor.Text.Decimal
import LineEditor.Regex.Flags
import LineEditor.Regex.Expr

/-! What follows a backslash, and the whole numbers of counted repetition. -/
namespace LineEditor.Regex

/-- What one character or one escape stands for. A literal written with two hexadecimal digits is a
byte where Unicode is switched off. -/
inductive Atom where
  | literal (c : Char) (twoDigits : Bool)
  | set (s : CharSet)
  | look (l : Look)

def isMeta (c : Char) : Bool :=
  ['\\', '.', '+', '*', '?', '(', ')', '|', '[', ']', '\x7b', '\x7d', '^', '$', '#', '&', '-',
    '~'].contains c

/-- An escaped ASCII character that is neither a letter nor a digit stands for itself. Angle
brackets are assertions. -/
def standsForItself (c : Char) : Bool :=
  isMeta c || (c.toNat < 0x80 && !c.isAlphanum && c ≠ '<' && c ≠ '>')

def controlEscape? : Char → Option Char
  | 'a' => some '\x07'
  | 'f' => some '\x0c'
  | 't' => some '\t'
  | 'n' => some '\n'
  | 'r' => some '\r'
  | 'v' => some '\x0b'
  | _ => none

def perlSet (unicode : Bool) (c : Char) : CharSet :=
  match c, unicode with
  | 'd', true => Unicode.digit
  | 's', true => Unicode.space
  | 'w', true => Unicode.word
  | 'd', false => .between '0' '9'
  | 's', false => .ofHex "9-d 20"
  | _, _ => .ofHex "30-39 41-5a 5f 61-7a"

def readPerl (flags : Flags) (c : Char) : Reading CharSet :=
  let negated := c.isUpper
  let s := perlSet flags.unicode c.toLower
  if !negated then .ok s
  else if flags.unicode then .ok s.compl
  else .error .invalidUtf8

def hexNumber? (digits : Text) : Option Nat :=
  digits.foldlM (fun n c => (CharSet.hexDigit? c).map (n * 16 + ·)) 0

def charOfHex (digits : Text) : Reading Char :=
  match hexNumber? digits with
  | some n => if h : n.isValidChar then .ok (Char.ofNatAux n h) else .error .hexInvalid
  | none => .error .hexInvalid

def readBraced (flags : Flags) : Nat → Text → Reading (Text × Text)
  | 0, _ => .error .escapeUnfinished
  | fuel + 1, t =>
      match flags.skip t with
      | [] => .error .escapeUnfinished
      | '\x7d' :: rest => .ok ([], rest)
      | c :: rest => do
          let (body, rest) ← readBraced flags fuel rest
          return (c :: body, rest)

def readFixed (flags : Flags) : Nat → Text → Reading (Text × Text)
  | 0, t => .ok ([], t)
  | count + 1, t =>
      match flags.skip t with
      | [] => .error .escapeUnfinished
      | c :: rest => do
          let (body, rest) ← readFixed flags count rest
          return (c :: body, rest)

def readHex (flags : Flags) (digits : Nat) (t : Text) : Reading (Atom × Text) :=
  match flags.skip t with
  | [] => .error .escapeUnfinished
  | '\x7b' :: rest => do
      let (body, rest) ← readBraced flags (rest.length + 1) rest
      if body.isEmpty then .error .hexMissing
      else return (.literal (← charOfHex body) false, flags.skip rest)
  | t => do
      let (body, rest) ← readFixed flags digits t
      return (.literal (← charOfHex body) (digits = 2), flags.skip rest)

inductive PropertyQuery where
  | named (name : Text)
  | valued (property value : Text) (differs : Bool)

/-- A query names a property, or it gives a property a value behind `!=`, `:` or `=`; of these signs
the first kind that occurs anywhere is the one meant. -/
def PropertyQuery.ofBody (body : Text) : PropertyQuery :=
  let cut (sign : Text) : Nat → Option (Text × Text)
    | n =>
        if sign.isPrefixOf (body.drop n) then some (body.take n, body.drop (n + sign.length))
        else none
  let find (sign : Text) := (List.range body.length).findSome? (cut sign)
  match find ['!', '='], find [':'], find ['='] with
  | some (p, v), _, _ => .valued p v true
  | none, some (p, v), _ => .valued p v false
  | none, none, some (p, v) => .valued p v false
  | none, none, none => .named body

def PropertyQuery.members? : PropertyQuery → Option CharSet
  | named name => Unicode.named? name
  | valued property value _ => Unicode.valued? property value

def PropertyQuery.differs : PropertyQuery → Bool
  | named _ => false
  | valued _ _ differs => differs

def readProperty (flags : Flags) (negated : Bool) (t : Text) : Reading (CharSet × Text) := do
  let (query, rest) ← match flags.skip t with
    | [] => .error .escapeUnfinished
    | '\x7b' :: rest => do
        let (body, rest) ← readBraced flags (rest.length + 1) rest
        pure (PropertyQuery.ofBody body, rest)
    | '\\' :: _ => .error .propertyUnknown
    | c :: rest => pure (PropertyQuery.named [c], flags.skip rest)
  if !flags.unicode then .error .unicodeDisabled
  else match query.members? with
    | none => .error .propertyUnknown
    | some s => return (← flags.close (negated != query.differs) s, rest)

def isEdgeLetter (c : Char) : Bool := c.isAlpha || c = '-'

/-- The name of a word edge in braces. The braces are a count instead if what opens them is followed
by anything but a letter or a dash. -/
def readWordEdge (flags : Flags) (t : Text) : Reading (WordEdge × Text) :=
  match t with
  | '\x7b' :: rest =>
      match flags.skip rest with
      | [] => .error .escapeUnfinished
      | c :: _ =>
          if !isEdgeLetter c then .ok (.boundary, t)
          else do
            let (body, rest) ← readBraced flags (rest.length + 1) rest
            if !body.all isEdgeLetter then .error .wordEdgeUnknown
            else match String.ofList body with
              | "start" => .ok (.start, rest)
              | "end" => .ok (.stop, rest)
              | "start-half" => .ok (.startHalf, rest)
              | "end-half" => .ok (.stopHalf, rest)
              | _ => .error .wordEdgeUnknown
  | _ => .ok (.boundary, t)

def readEscape (flags : Flags) : Text → Reading (Atom × Text)
  | [] => .error .escapeUnfinished
  | c :: t =>
      let word (edge : WordEdge) : Atom := .look (.word edge flags.unicode)
      if c.isDigit then .error .backReference
      else if c = 'x' then readHex flags 2 t
      else if c = 'u' then readHex flags 4 t
      else if c = 'U' then readHex flags 8 t
      else if c = 'p' ∨ c = 'P' then do
        let (s, rest) ← readProperty flags (c = 'P') t
        return (.set s, rest)
      else if ['d', 's', 'w', 'D', 'S', 'W'].contains c then do
        return (.set (← readPerl flags c), t)
      else if standsForItself c then .ok (.literal c false, t)
      else match controlEscape? c, c with
        | some control, _ => .ok (.literal control false, t)
        | none, 'A' => .ok (.look .textStart, t)
        | none, 'z' => .ok (.look .textEnd, t)
        | none, 'b' => do
            let (edge, rest) ← readWordEdge flags t
            return (word edge, rest)
        | none, 'B' => .ok (word .inside, t)
        | none, '<' => .ok (word .start, t)
        | none, '>' => .ok (word .stop, t)
        | none, _ => .error .escapeUnknown

/-- Decimal digits, with trivia between them where it counts for nothing. -/
def takeDigits (verbose inComment : Bool) : Text → Text × Text
  | [] => ([], [])
  | c :: t =>
      if inComment then takeDigits verbose (c ≠ '\n') t
      else if c.isDigit then
        let (digits, rest) := takeDigits verbose false t
        (c :: digits, rest)
      else if verbose && Text.isWhitespace c then takeDigits verbose false t
      else if verbose && c = '#' then takeDigits verbose true t
      else ([], c :: t)

def readCount (flags : Flags) (t : Text) : Reading Nat × Text :=
  let (digits, rest) := takeDigits flags.verbose false (Text.trimStart t)
  let n := Text.number digits
  let count : Reading Nat :=
    if digits.isEmpty then .error .countMissing
    else if n < 0x100000000 then .ok n
    else .error .countTooLarge
  (count, flags.skip (Text.trimStart rest))

def readBounds (flags : Flags) (t : Text) : Reading ((Nat × Option Nat) × Text) := do
  let (low, t) := readCount flags (flags.skip t)
  match t with
  | '\x7d' :: rest =>
      let n ← low
      return ((n, some n), rest)
  | ',' :: t =>
      match flags.skip t with
      | '\x7d' :: rest => return ((← low, none), rest)
      | t =>
          let min ← low
          let (high, t) := readCount flags t
          let max ← high
          match t with
          | '\x7d' :: rest =>
              if min ≤ max then return ((min, some max), rest) else .error .countDisordered
          | _ => .error .countUnclosed
  | _ => .error .countUnclosed

end LineEditor.Regex
