import LineEditor.Regex.Expr

/-! Expressions as programs of small instructions. An expression is laid down behind the
instructions that follow it in the match, so every target but that of a loop is known when it is
written. -/
namespace LineEditor.Regex

inductive Instr where
  | read (s : CharSet) (next : Nat)
  | split (first second : Nat)
  | look (l : Look) (next : Nat)
  | save (slot : Nat) (next : Nat)
  | accept
  | fail
  deriving Repr

abbrev Code := Array Instr

/-- Where an expression begins, and the code that holds it. -/
abbrev Laid := Nat × Code

namespace Code

def emit (code : Code) (i : Instr) : Laid := (code.size, code.push i)

def choose (greedy : Bool) (body exit : Nat) : Instr :=
  if greedy then .split body exit else .split exit body

def atLeastOnce (greedy : Bool) (body : Nat → Code → Laid) (next : Nat) (code : Code) : Laid :=
  let (again, code) := code.emit .fail
  let (start, code) := body again code
  (start, code.setIfInBounds again (choose greedy start next))

/-- Any number of rounds. A body that can be empty is entered once before it may be left, which
keeps the order of preference: any number of rounds is then at most one time one round or more. -/
def anyNumber (greedy nullable : Bool) (body : Nat → Code → Laid) (next : Nat) (code : Code) :
    Laid :=
  if nullable then
    let (start, code) := atLeastOnce greedy body next code
    code.emit (choose greedy start next)
  else
    let (again, code) := code.emit .fail
    let (start, code) := body again code
    (again, code.setIfInBounds again (choose greedy start next))

def exactly (body : Nat → Code → Laid) : Nat → Nat → Code → Laid
  | 0, next, code => (next, code)
  | n + 1, next, code =>
      let (start, code) := exactly body n next code
      body start code

def atMost (greedy : Bool) (body : Nat → Code → Laid) (exit : Nat) : Nat → Code → Laid
  | 0, code => (exit, code)
  | n + 1, code =>
      let (rest, code) := atMost greedy body exit n code
      let (start, code) := body rest code
      code.emit (choose greedy start exit)

end Code

open Code in
def Expr.lay : Expr → Nat → Code → Laid
  | .empty, next, code => (next, code)
  | .set s _, next, code => code.emit (.read s next)
  | .look l, next, code => code.emit (.look l next)
  | .seq a b, next, code =>
      let (start, code) := b.lay next code
      a.lay start code
  | .alt a b, next, code =>
      let (second, code) := b.lay next code
      let (first, code) := a.lay next code
      code.emit (.split first second)
  | .loop min none greedy body, next, code =>
      match min with
      | 0 => anyNumber greedy body.nullable body.lay next code
      | n + 1 =>
          let (start, code) := atLeastOnce greedy body.lay next code
          exactly body.lay n start code
  | .loop min (some max) greedy body, next, code =>
      let (start, code) := atMost greedy body.lay next (max - min) code
      exactly body.lay min start code
  | .group index body, next, code =>
      let (close, code) := code.emit (.save (2 * index - 1) next)
      let (start, code) := body.lay close code
      code.emit (.save (2 * index - 2) start)

structure Program where
  code : Code
  start : Nat
  groups : Nat
  deriving Repr

def Program.ofExpr (e : Expr) (groups : Nat) : Program :=
  let (accept, code) := Code.emit #[] .accept
  let (start, code) := e.lay accept code
  ⟨code, start, groups⟩

end LineEditor.Regex
