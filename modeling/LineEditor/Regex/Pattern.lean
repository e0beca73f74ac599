import LineEditor.Regex.Bracket

/-! The notation of a whole pattern, read from the left with a stack of open groups. Flags hold from
where they are set to the end of the group around them, later alternatives included. -/
namespace LineEditor.Regex

/-- An item of a sequence. A directive such as `(?i)` is an item that matches nothing and cannot be
repeated. Its depth is the number of levels of its notation. -/
structure Piece where
  expr : Expr
  depth : Nat := 0
  directive : Bool := false

namespace Piece

def maxDepth (pieces : List Piece) : Nat := pieces.foldl (fun n p => max n p.depth) 0

def join (combine : List Expr → Expr) (pieces : List Piece) : Piece :=
  match pieces with
  | [] => { expr := .empty }
  | [p] => p
  | _ => { expr := combine (pieces.map (·.expr)), depth := maxDepth pieces + 1 }

def sequence : List Piece → Piece := join Expr.sequence

def alternatives : List Piece → Piece := join Expr.alternatives

end Piece

/-- What has been read since a group was opened: the alternatives that are complete and the items of
the one that is not, both latest first. -/
structure Branches where
  complete : List Piece := []
  items : List Piece := []

namespace Branches

def push (b : Branches) (p : Piece) : Branches := { b with items := p :: b.items }

def next (b : Branches) : Branches :=
  { complete := Piece.sequence b.items.reverse :: b.complete, items := [] }

def finish (b : Branches) : Piece := Piece.alternatives b.next.complete.reverse

def repeatLast (b : Branches) (min : Nat) (max : Option Nat) (greedy : Bool) : Reading Branches :=
  match b.items with
  | p :: rest =>
      if p.directive then .error .repetitionMissing
      else .ok { b with
        items := { expr := p.expr.repeated min max greedy, depth := p.depth + 1 } :: rest }
  | [] => .error .repetitionMissing

end Branches

/-- A group that is open: what stands before it, the flags that hold again behind it, and its number
if it remembers its match. -/
structure OpenGroup where
  outside : Branches
  flags : Flags
  index : Option Nat

structure Reader where
  flags : Flags
  branches : Branches := {}
  openGroups : List OpenGroup := []
  groups : Nat := 0
  names : List (Text × Nat) := []

namespace Reader

def push (r : Reader) (p : Piece) : Reader := { r with branches := r.branches.push p }

def literal (flags : Flags) (c : Char) (twoDigits : Bool) : Reading Expr :=
  if !flags.unicode && twoDigits && c.toNat ≥ 0x80 then .error .invalidUtf8
  else
    let s :=
      if !flags.ignoreCase then .single c
      else if flags.unicode then (CharSet.single c).foldCase
      else (CharSet.single c).foldCaseAscii
    .ok (.ofSet s flags.unicode)

def atom (flags : Flags) : Atom → Reading Expr
  | .literal c twoDigits => literal flags c twoDigits
  | .set s => .ok (.ofSet s flags.unicode)
  | .look l => .ok (.look l)

/-- A dot, which without Unicode would match bytes that are no text. -/
def dot (flags : Flags) : Reading Expr :=
  if !flags.unicode then .error .invalidUtf8
  else if flags.dotAll then .ok (.set .all)
  else if flags.crlf then .ok (.set ⟨[⟨0, 9⟩, ⟨0xb, 0xc⟩, ⟨0xe, 0xd7ff⟩, ⟨0xe000, 0x10ffff⟩]⟩)
  else .ok (.set ⟨[⟨0, 9⟩, ⟨0xb, 0xd7ff⟩, ⟨0xe000, 0x10ffff⟩]⟩)

def lineStart (flags : Flags) : Expr :=
  .look (if flags.multiLine then .lineStart flags.crlf else .textStart)

def lineEnd (flags : Flags) : Expr :=
  .look (if flags.multiLine then .lineEnd flags.crlf else .textEnd)

def isNameStart (c : Char) : Bool := c = '_' || Unicode.alphabetic.contains c

def isNameChar (c : Char) : Bool :=
  c = '_' || c = '.' || c = '[' || c = ']' || Unicode.alphanumeric.contains c

def readName (t : Text) : Reading (Text × Text) :=
  let name := t.takeWhile (· ≠ '>')
  match name, t.dropWhile (· ≠ '>') with
  | c :: more, _ :: rest =>
      if isNameStart c && more.all isNameChar then .ok (name, rest) else .error .groupNameInvalid
  | _, _ => .error .groupNameInvalid

def openGroup (r : Reader) (flags : Flags) (index : Option Nat) : Reader :=
  { r with
    flags
    branches := {}
    openGroups := ⟨r.branches, r.flags, index⟩ :: r.openGroups }

def openNumbered (r : Reader) : Reader :=
  openGroup { r with groups := r.groups + 1 } r.flags (some (r.groups + 1))

def openNamed (r : Reader) (t : Text) : Reading (Reader × Text) := do
  let (name, rest) ← readName t
  if r.names.any (·.1 = name) then .error .groupNameRepeated
  else return (openNumbered { r with names := r.names ++ [(name, r.groups + 1)] }, rest)

def openFlags (r : Reader) (t : Text) : Reading (Reader × Text) := do
  let letters := t.takeWhile fun c => c ≠ ':' && c ≠ ')'
  match t.dropWhile fun c => c ≠ ':' && c ≠ ')' with
  | [] => .error .flagsUnclosed
  | c :: rest =>
      Flags.check letters
      let flags := r.flags.apply letters
      if c = ':' then return (openGroup r flags none, rest)
      else if letters.isEmpty then .error .flagsMissing
      else return (({ r with flags } : Reader).push { expr := .empty, directive := true }, rest)

def openParenthesis (r : Reader) (t : Text) : Reading (Reader × Text) :=
  match r.flags.skip t with
  | '?' :: '=' :: _ => .error .lookAround
  | '?' :: '!' :: _ => .error .lookAround
  | '?' :: '<' :: '=' :: _ => .error .lookAround
  | '?' :: '<' :: '!' :: _ => .error .lookAround
  | '?' :: 'P' :: '<' :: rest => openNamed r rest
  | '?' :: '<' :: rest => openNamed r rest
  | '?' :: rest => openFlags r rest
  | t => .ok (openNumbered r, t)

def closeGroup (r : Reader) : Reading Reader :=
  match r.openGroups with
  | [] => .error .groupUnopened
  | g :: groups =>
      let inner := r.branches.finish
      let expr := match g.index with
        | some index => .group index inner.expr
        | none => inner.expr
      .ok { r with
        flags := g.flags
        branches := g.outside.push { expr, depth := inner.depth + 1 }
        openGroups := groups }

def repeatLast (r : Reader) (min : Nat) (max : Option Nat) (lazy : Bool) : Reading Reader := do
  return { r with branches := ← r.branches.repeatLast min max (lazy == r.flags.swapGreed) }

def repeatSign (r : Reader) (min : Nat) (max : Option Nat) (t : Text) :
    Reading (Reader × Text) := do
  match t with
  | '?' :: rest => return (← r.repeatLast min max true, rest)
  | _ => return (← r.repeatLast min max false, t)

def step (r : Reader) (c : Char) (t : Text) : Reading (Reader × Text) :=
  match c with
  | '(' => r.openParenthesis t
  | ')' => do return (← r.closeGroup, t)
  | '|' => .ok ({ r with branches := r.branches.next }, t)
  | '[' => do
      let (b, rest) := openBracket r.flags t
      let ((s, depth), rest) ← readBracket r.flags (rest.length + 1) b rest
      return (r.push { expr := .ofSet s r.flags.unicode, depth }, rest)
  | '?' => r.repeatSign 0 (some 1) t
  | '*' => r.repeatSign 0 none t
  | '+' => r.repeatSign 1 none t
  | '\x7b' => do
      let ((min, max), rest) ← readBounds r.flags t
      r.repeatSign min max (r.flags.skip rest)
  | '\\' => do
      let (a, rest) ← readEscape r.flags t
      return (r.push { expr := ← atom r.flags a }, rest)
  | '.' => do return (r.push { expr := ← dot r.flags }, t)
  | '^' => .ok (r.push { expr := lineStart r.flags }, t)
  | '$' => .ok (r.push { expr := lineEnd r.flags }, t)
  | c => do return (r.push { expr := ← literal r.flags c false }, t)

def run : Nat → Reader → Text → Reading Reader
  | 0, _, _ => .error .groupUnclosed
  | fuel + 1, r, t =>
      match r.flags.skip t with
      | [] => if r.openGroups.isEmpty then .ok r else .error .groupUnclosed
      | c :: t => do
          let (r, t) ← r.step c t
          run fuel r t

end Reader

structure Pattern where
  expr : Expr
  groups : Nat
  names : List (Text × Nat)

def depthLimit : Nat := 250

def Pattern.read (ignoreCase : Bool) (t : Text) : Reading Pattern := do
  let r ← Reader.run (t.length + 1) { flags := { ignoreCase } } t
  let piece := r.branches.finish
  if piece.depth ≤ depthLimit then return ⟨piece.expr, r.groups, r.names⟩ else .error .tooDeep

end LineEditor.Regex
