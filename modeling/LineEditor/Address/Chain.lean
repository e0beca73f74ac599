import LineEditor.Address.Scanner
import LineEditor.Search

/-! The addresses in front of a command. A chain is a row of components with separators between
them. A component is a base with any number of offsets; each of its parts may be missing. Reading a
chain never fails and depends on the text alone. -/
namespace LineEditor

inductive Base where
  | number (digits : Text)
  | current
  | last
  | pattern (d : Direction) (source : Text)
  deriving DecidableEq, Repr

inductive Sign where
  | plus
  | minus
  deriving DecidableEq, Repr

def Sign.ofChar? : Char → Option Sign
  | '+' => some plus
  | '-' => some minus
  | _ => none

structure Offset where
  sign : Sign
  digits : Option Text
  deriving DecidableEq, Repr

structure Component where
  base : Option Base
  offsets : List Offset
  deriving DecidableEq, Repr

inductive Separator where
  | comma
  | semicolon
  deriving DecidableEq, Repr

def Separator.ofChar? : Char → Option Separator
  | ',' => some comma
  | ';' => some semicolon
  | _ => none

structure Chain where
  first : Component
  more : List (Separator × Component)
  /-- Whether a base stands behind the last component, where none may be. -/
  stray : Bool
  deriving DecidableEq, Repr

inductive Addresses where
  | whole
  | chain (c : Chain)
  deriving DecidableEq, Repr

def opensBase (c : Char) : Bool :=
  c.isDigit || c = '.' || c = '$' || (Direction.ofDelimiter? c).isSome

namespace Scanner

def readBase (s : Scanner) : Option Base × Scanner :=
  match s.peek with
  | none => (none, s)
  | some c =>
      if c.isDigit then
        let (run, s) := s.digits
        (run.map .number, s)
      else if c = '.' then (some .current, s.bump.2.commit)
      else if c = '$' then (some .last, s.bump.2.commit)
      else match Direction.ofDelimiter? c with
        | some d =>
            let (source, s) := s.bump.2.delimited c
            (some (.pattern d source), s)
        | none => (none, s)

def readOffsets : Nat → Scanner → List Offset × Scanner
  | 0, s => ([], s.skipBlanks)
  | fuel + 1, s =>
      let s := s.skipBlanks
      match s.peek.bind Sign.ofChar? with
      | some sign =>
          let (digits, s) := s.bump.2.commit.skipBlanks.digits
          let (offsets, s) := readOffsets fuel s
          (⟨sign, digits⟩ :: offsets, s)
      | none => ([], s)

def readComponent (s : Scanner) : Component × Scanner :=
  let (base, s) := s.skipBlanks.readBase
  let (offsets, s) := readOffsets s.rest.length s
  (⟨base, offsets⟩, s)

def readMore : Nat → Scanner → List (Separator × Component) × Scanner
  | 0, s => ([], s)
  | fuel + 1, s =>
      match s.peek.bind Separator.ofChar? with
      | some separator =>
          let (component, s) := s.bump.2.commit.readComponent
          let (more, s) := readMore fuel s
          ((separator, component) :: more, s)
      | none => ([], s)

def readChain (s : Scanner) : Chain × Scanner :=
  let (first, s) := s.readComponent
  let (more, s) := readMore s.rest.length s
  (⟨first, more, s.peek.any opensBase⟩, s)

def readAddresses (s : Scanner) : Addresses × Scanner :=
  match s.skipBlanks.eat '%' with
  | (true, s) => (.whole, s.commit)
  | (false, s) =>
      let (chain, s) := s.readChain
      (.chain chain, s)

end Scanner

def Addresses.read (t : Text) : Addresses × Text :=
  let (addresses, s) := (Scanner.ofText t).readAddresses
  (addresses, s.rest)

end LineEditor
