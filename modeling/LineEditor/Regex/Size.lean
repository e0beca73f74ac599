import LineEditor.Regex.Expr

/-! The space that an expression takes as an automaton over the bytes of UTF-8, once for reading
forwards and once for reading backwards. Patterns whose automaton is too large are refused, so that
a counted repetition cannot ask for more than a fixed amount of work. -/
namespace LineEditor.Regex

abbrev ByteSeq := List Interval

def continuation (n shift : Nat) : Nat := 0x80 + n / Nat.pow 64 shift % 64

def utf8Bytes (n : Nat) : List Nat :=
  if n < 0x80 then [n]
  else if n < 0x800 then [0xc0 + n / 64, continuation n 0]
  else if n < 0x10000 then [0xe0 + n / 4096, continuation n 1, continuation n 0]
  else [0xf0 + n / 262144, continuation n 2, continuation n 1, continuation n 0]

/-- Where an interval of code points must be cut before its bytes vary independently: at the ends of
the lengths, and where a leading byte is not combined with all that may follow it. -/
def cutPoint (first last : Nat) : Option Nat :=
  match [0x7f, 0x7ff, 0xffff].find? fun top => first ≤ top ∧ top < last with
  | some top => some top
  | none =>
      if last < 0x80 then none
      else [64, 4096, 262144].findSome? fun block =>
        if first / block = last / block then none
        else if first % block ≠ 0 then some (first / block * block + block - 1)
        else if last % block ≠ block - 1 then some (last / block * block - 1)
        else none

/-- An interval of code points as byte sequences in increasing order; an interval of characters is
cut a few dozen times at most. -/
def byteSeqs : Nat → Nat → Nat → List ByteSeq
  | 0, _, _ => []
  | fuel + 1, first, last =>
      match cutPoint first last with
      | some cut => byteSeqs fuel first cut ++ byteSeqs fuel (cut + 1) last
      | none => [(utf8Bytes first).zipWith Interval.mk (utf8Bytes last)]

def CharSet.byteSeqs (s : CharSet) : List ByteSeq :=
  s.intervals.flatMap fun i => Regex.byteSeqs 64 i.first i.last

inductive ByteTrie where
  | leaf
  | node (edges : List (Interval × ByteTrie))

def ByteTrie.add : ByteSeq → ByteTrie → ByteTrie
  | [], t => t
  | i :: seq, .leaf => .node [(i, add seq .leaf)]
  | i :: seq, .node edges =>
      match edges with
      | (j, t) :: more =>
          if i = j then .node ((j, add seq t) :: more) else .node ((i, add seq .leaf) :: edges)
      | [] => .node [(i, add seq .leaf)]

abbrev NodeKey := List (Interval × Nat)

mutual

/-- Numbers the nodes of a trie; equal nodes have one number. The leaf has the number 0. -/
def ByteTrie.number : ByteTrie → List NodeKey → Nat × List NodeKey
  | .leaf, known => (0, known)
  | .node edges, known =>
      let (key, known) := numberEdges edges known
      match known.idxOf? key with
      | some i => (known.length - i, known)
      | none => (known.length + 1, key :: known)

def ByteTrie.numberEdges : List (Interval × ByteTrie) → List NodeKey → NodeKey × List NodeKey
  | [], known => ([], known)
  | (i, t) :: more, known =>
      let (n, known) := t.number known
      let (key, known) := numberEdges more known
      ((i, n) :: key, known)

end

mutual

def ByteTrie.edgeCount : ByteTrie → Nat
  | .leaf => 0
  | .node edges => edgeCounts edges

def ByteTrie.edgeCounts : List (Interval × ByteTrie) → Nat
  | [] => 0
  | (_, t) :: more => t.edgeCount + edgeCounts more + 1

end

/-- Bytes taken by a state, an edge of a state that reads, and an alternative of a state that does
not. -/
def stateSize : Nat := 32
def edgeSize : Nat := 8
def choiceSize : Nat := 4

def totalLength {α : Type} : List (List α) → Nat
  | [] => 0
  | l :: ls => l.length + totalLength ls

def setSize (forward : Bool) (s : CharSet) : Nat :=
  match s.single? with
  | some n => (utf8Bytes n).length * stateSize
  | none =>
      if s.isAscii then 2 * stateSize + s.intervals.length * edgeSize
      else
        let seqs := CharSet.byteSeqs s
        let trie := seqs.foldl (fun t seq => t.add seq) ByteTrie.leaf
        if forward then
          let (_, nodes) := trie.number []
          (nodes.length + 1) * stateSize + totalLength nodes * edgeSize
        else (trie.edgeCount + 2) * stateSize + seqs.length * choiceSize

def forkSize : Nat := stateSize + 2 * choiceSize

def splitAtEnds : List (List Nat) → List (List (List Nat))
  | [] => [[]]
  | [] :: words => [] :: splitAtEnds words
  | word :: words =>
      match splitAtEnds words with
      | part :: parts => (word :: part) :: parts
      | [] => [[word]]

/-- Words as a tree of their bytes. An end of a word parts what comes before it from what comes
behind it, unless no word goes on before. -/
def wordsSize : Nat → List (List Nat) → Nat
  | 0, _ => 0
  | fuel + 1, words =>
      let parts := splitAtEnds words
      let early := (parts.takeWhile (·.isEmpty)).length
      let ends := parts.length - 1 - (early - 1)
      let sizes := parts.map fun part =>
        let bytes := (part.filterMap List.head?).eraseDups
        let below := bytes.map fun b =>
          let rest := (part.filter (·.head? = some b)).map List.tail
          if rest.all List.isEmpty then 0 else wordsSize fuel rest
        if bytes.isEmpty then 0
        else stateSize + choiceSize + (if bytes.length = 1 then 0 else bytes.length * edgeSize) +
          below.foldl (· + ·) 0
      stateSize + ends * choiceSize + sizes.foldl (· + ·) 0

def Expr.literal? : Expr → Option (List Nat)
  | .set s _ => s.single?.map utf8Bytes
  | .seq a b => do return (← a.literal?) ++ (← b.literal?)
  | _ => none

/-- The size of an expression by itself, and as one of several alternatives. -/
structure Space where
  alone : Nat
  among : Nat

def Space.of (n : Nat) : Space := ⟨n, choiceSize + n⟩

def Expr.space (forward : Bool) : Expr → Space
  | .empty => .of stateSize
  | .set s _ => .of (setSize forward s)
  | .look _ => .of stateSize
  | .seq a b => .of ((a.space forward).alone + (b.space forward).alone)
  | .alt a b =>
      let among := (a.space forward).among + (b.space forward).among
      match (a.branches ++ b.branches).mapM Expr.literal? with
      | some words =>
          let words := if forward then words else words.map List.reverse
          ⟨stateSize + wordsSize (totalLength words + 1) words, among⟩
      | none => ⟨2 * stateSize + among, among⟩
  | .loop min none _ body =>
      let once := (body.space forward).alone
      .of <|
        if min = 0 then if body.nullable then 2 * forkSize + stateSize + once else forkSize + once
        else min * once + forkSize
  | .loop min (some max) _ body =>
      let once := (body.space forward).alone
      let first := if min = 0 ∧ max ≠ 1 then stateSize else min * once
      .of (if min = max then first else first + stateSize + (max - min) * (forkSize + once))
  | .group _ body => .of ((if forward then 2 * stateSize else 0) + (body.space forward).alone)

def Expr.size (forward : Bool) (e : Expr) : Nat := (e.space forward).alone

/-- The largest automaton that is built: ten mebibytes. -/
def sizeLimit : Nat := 10 * 1024 * 1024

/-- Whether both automata stay within the limit, with what every automaton holds besides: a loop
that moves its start through the text, a state to accept in, and forwards the group of the match. -/
def Expr.fits (e : Expr) : Bool :=
  let around := forkSize + 2 * stateSize + edgeSize + stateSize
  e.size true + around + 2 * stateSize ≤ sizeLimit && e.size false + around ≤ sizeLimit

end LineEditor.Regex
