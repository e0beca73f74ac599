import LineEditor.Proofs.Delimiter
import LineEditor.Proofs.Editor.Rewriting

/-! Searching for the last pattern again and again. Every search goes on to the next line that
matches, and so they come to all of these lines in turn and then back to the first. A search the other
way undoes one. -/
namespace LineEditor

namespace Buffer

variable {b : Buffer} {r : Regex} {d : Direction} {addr start n : Nat} {rest : List Nat}

def matchesAt (b : Buffer) (r : Regex) (addr : Nat) : Bool := (b.getLine addr).any r.isMatch

def matching (b : Buffer) (r : Regex) : List Nat :=
  (List.range' 1 b.lineCount).filter (b.matchesAt r)

def round (b : Buffer) (r : Regex) (d : Direction) (start : Nat) : List Nat :=
  (d.tour b.lineCount start).filter (b.matchesAt r)

theorem matchesAt_iff : b.matchesAt r addr = true ↔ b.LineAt addr (r.isMatch · = true) :=
  Option.any_eq_true ..

theorem mem_matching : addr ∈ b.matching r ↔
    (1 ≤ addr ∧ addr ≤ b.lineCount) ∧ b.matchesAt r addr = true := by
  have inside : addr ∈ List.range' 1 b.lineCount ↔ 1 ≤ addr ∧ addr ≤ b.lineCount := by
    rw [List.mem_range'_1]
    omega
  rw [matching, List.mem_filter, inside]

theorem pairwise_matching (b : Buffer) (r : Regex) : (b.matching r).Pairwise (· < ·) :=
  (List.pairwise_lt_range' 1 (Nat.succ_pos 0)).filter _

theorem filter_addresses {count : Nat} (inside : n ≤ count) :
    (List.range' 1 count).filter (· ≤ n) = List.range' 1 n ∧
      (List.range' 1 count).filter (n < ·) = List.range' (n + 1) (count - n) := by
  have low : ∀ addr ∈ List.range' 1 n, addr ≤ n := by
    intro addr member
    rw [List.mem_range'_1] at member
    omega
  have high : ∀ addr ∈ List.range' (n + 1) (count - n), n < addr :=
    fun addr member => (List.mem_range'_1.mp member).1
  have cut : List.range' 1 count = List.range' 1 n ++ List.range' (n + 1) (count - n) := by
    rw [Nat.add_comm n 1, List.range'_append_1, Nat.add_sub_cancel' inside]
  constructor
  · have kept : (List.range' 1 n).filter (· ≤ n) = List.range' 1 n :=
      List.filter_eq_self.mpr fun addr member => decide_eq_true (low addr member)
    have dropped : (List.range' (n + 1) (count - n)).filter (· ≤ n) = [] := by
      refine List.filter_eq_nil_iff.mpr fun addr member => ?_
      simpa using high addr member
    rw [cut, List.filter_append, kept, dropped, List.append_nil]
  · have dropped : (List.range' 1 n).filter (n < ·) = [] := by
      refine List.filter_eq_nil_iff.mpr fun addr member => ?_
      simpa using low addr member
    have kept : (List.range' (n + 1) (count - n)).filter (n < ·) = List.range' (n + 1) (count - n) :=
      List.filter_eq_self.mpr fun addr member => decide_eq_true (high addr member)
    rw [cut, List.filter_append, dropped, kept, List.nil_append]

theorem filter_matching (b : Buffer) (r : Regex) (p : Nat → Bool) :
    (b.matching r).filter p = ((List.range' 1 b.lineCount).filter p).filter (b.matchesAt r) := by
  rw [matching, List.filter_filter, List.filter_filter]
  exact List.filter_congr fun addr _ => Bool.and_comm ..

theorem round_forward (r : Regex) (last : start ≤ b.lineCount) :
    b.round r .forward start =
      (b.matching r).filter (start < ·) ++ (b.matching r).filter (· ≤ start) := by
  obtain ⟨upTo, behind⟩ := filter_addresses last
  rw [filter_matching, filter_matching, upTo, behind, ← List.filter_append]
  rfl

theorem round_backward (r : Regex) (first : 1 ≤ start) (last : start ≤ b.lineCount) :
    b.round r .backward start =
      ((b.matching r).filter (· < start)).reverse ++
        ((b.matching r).filter (start ≤ ·)).reverse := by
  obtain ⟨n, rfl⟩ := Nat.exists_eq_add_of_le' first
  obtain ⟨upTo, behind⟩ := filter_addresses (Nat.le_of_succ_le last)
  have length : b.lineCount + 1 - (n + 1) = b.lineCount - n := Nat.add_sub_add_right ..
  simp only [Nat.lt_succ_iff, Nat.succ_le_iff, filter_matching]
  rw [upTo, behind, round, Direction.tour, Nat.max_eq_left first, length, List.filter_append,
    List.filter_reverse, List.filter_reverse, Nat.add_sub_cancel]

theorem round_perm (r : Regex) (d : Direction) (last : start ≤ b.lineCount) :
    (b.round r d start).Perm (b.matching r) :=
  (d.tour_perm last).filter _

theorem head_matching (last : start ≤ b.lineCount) (ahead : b.round r d start = addr :: rest) :
    addr ∈ b.matching r := by
  rw [← (round_perm r d last).mem_iff, ahead]
  exact List.mem_cons_self

/-- A round ends on the line it set out from, if that matches, and is the reverse of the round the
other way but for this line. -/
theorem round_opposite (d : Direction) (here : start ∈ b.matching r) :
    ∃ others, b.round r d start = others ++ [start] ∧
      b.round r d.opposite start = others.reverse ++ [start] := by
  obtain ⟨⟨first, last⟩, here⟩ := mem_matching.mp here
  obtain ⟨others, one, other⟩ := d.tour_opposite first last
  refine ⟨others.filter (b.matchesAt r), ?_, ?_⟩
  · rw [round, one, List.filter_append, List.filter_cons_of_pos here, List.filter_nil]
  · rw [round, other, List.filter_append, List.filter_reverse, List.filter_cons_of_pos here,
      List.filter_nil]

/-- A search finds the first line of the round. The round from there goes on as this one does. -/
theorem round_next (first : 1 ≤ start) (last : start ≤ b.lineCount)
    (ahead : b.round r d start = addr :: rest) :
    b.search start d r.isMatch = .ok addr ∧ b.round r d addr = rest ++ [addr] := by
  rcases search_tour (fun line => Iff.rfl) b start d with ⟨found, next, search⟩ | ⟨none, -⟩
  · obtain ⟨before, behind, route, here, earlier⟩ := next
    rw [Nat.min_eq_left last] at route
    have matched : b.matchesAt r found = true := matchesAt_iff.mpr here
    have passed : before.filter (b.matchesAt r) = [] :=
      List.filter_eq_nil_iff.mpr fun other member match_ =>
        earlier other member (matchesAt_iff.mp match_)
    rw [round, route, List.filter_append, passed, List.nil_append, List.filter_cons_of_pos matched]
      at ahead
    cases ahead
    refine ⟨search, ?_⟩
    rw [round, d.tour_onward first last route, List.filter_append, List.filter_append, passed,
      List.nil_append, List.filter_cons_of_pos matched, List.filter_nil]
  · obtain ⟨-, matched⟩ := mem_matching.mp (head_matching last ahead)
    obtain ⟨line, present, holds⟩ := mem_lines_of_lineAt (matchesAt_iff.mp matched)
    exact absurd holds (none line present)

theorem search_opposite (here : start ∈ b.matching r)
    (ahead : b.round r d start = addr :: rest) :
    b.search addr d.opposite r.isMatch = .ok start := by
  obtain ⟨⟨first, last⟩, -⟩ := mem_matching.mp here
  have there := head_matching last ahead
  obtain ⟨⟨above, below⟩, -⟩ := mem_matching.mp there
  obtain ⟨-, onward⟩ := round_next first last ahead
  obtain ⟨others, one, other⟩ := round_opposite d there
  obtain ⟨ahead_others, ends, -⟩ := round_opposite d here
  -- both rounds from there are this round, turned by one line, and read the two ways
  have same : others = rest := List.append_cancel_right (one.symm.trans onward)
  have back : b.round r d.opposite addr = start :: ahead_others.reverse := by
    rw [other, same, ← List.reverse_cons, ← ahead, ends, List.reverse_append]
    rfl
  exact (round_next above below back).1

end Buffer

def searchAgain (d : Direction) : Text := [d.delimiter, d.delimiter]

theorem resolve_searchAgain {d : Direction} {b : Buffer} {r : Regex} {current addr : Nat}
    (found : b.search current d r.isMatch = .ok addr) (inside : 1 ≤ addr ∧ addr ≤ b.lineCount)
    (word : (addr : Int) < sumLimit) :
    resolve (searchAgain d) b current (some r) = .ok ⟨addr, addr, ['p'], current, none⟩ := by
  have read : Addresses.read (searchAgain d) =
      (.chain ⟨⟨some (.pattern d []), []⟩, [], false⟩, []) := read_patternAddress .nil
  have inWord : signed addr = .ok addr := by
    have low : -sumLimit ≤ (addr : Int) := by rw [sumLimit]; omega
    exact if_pos ⟨low, word⟩
  have value : Component.value b (some r) ⟨current, none⟩ ⟨some (.pattern d []), []⟩ =
      .ok (some addr, ⟨current, none⟩) := by
    have base : Base.value b (some r) ⟨current, none⟩ (.pattern d []) =
        .ok ((addr : Int), ⟨current, none⟩) := by
      simp only [Base.value, Progress.adopt, List.isEmpty_nil, if_true, ok_bind, Option.none_or,
        found, inWord]
      rfl
    simp only [Component.value, base, ok_bind]
    rfl
  have line : b.HasLine addr := by
    rw [Buffer.hasLine_iff, Buffer.holds_iff]
    omega
  rw [resolve_lone_address read value, if_pos line]
  rfl

namespace Editor

def executeAll (e : Editor) (s : Surroundings) : List Text → List (Editor × Outcome)
  | [] => []
  | line :: lines =>
      let (reached, s) := (e.execute line).run s
      reached :: reached.1.executeAll s lines

/-- The command lines succeed and take the current line to these addresses, one after the other.
Nothing else of the editor changes. -/
def Visits (e : Editor) (s : Surroundings) (lines : List Text) (addrs : List Nat) : Prop :=
  e.executeAll s lines = addrs.map fun addr => (e.moveTo addr, .proceed)

variable {e : Editor} {r : Regex} {s : Surroundings} {d : Direction} {addr : Nat}

theorem execute_searchAgain (pattern : e.lastPattern = some r)
    (word : (e.document.buffer.lineCount : Int) < sumLimit) (room : s.sink.room = none)
    (inside : 1 ≤ addr ∧ addr ≤ e.document.buffer.lineCount)
    (found : e.document.buffer.search e.document.cursor d r.isMatch = .ok addr) :
    ((e.execute (searchAgain d)).run s).1 = (e.moveTo addr, .proceed) := by
  have resolution := resolve_searchAgain found inside (by omega)
  rw [← pattern] at resolution
  have lines : e.document.buffer.isEmpty = false := by
    rw [Bool.eq_false_iff, ne_eq, Buffer.isEmpty_iff]
    omega
  let i : Invocation := ⟨addr, addr, 'p', ['p']⟩
  have ran : (e.printRange .plain i).run s = (⟨e.moveTo addr, .ok .proceed⟩, _) :=
    printRange_run rfl lines rfl (Sink.takes_of_unlimited room _)
  have tried := tryExecute_run_ok resolution rfl ran
  rw [execute, Dialogue.run_bind, tried]
  rfl

theorem Visits.cons {line : Text} {lines : List Text} {addrs : List Nat}
    (first : ((e.execute line).run s).1 = (e.moveTo addr, .proceed))
    (more : (e.moveTo addr).Visits ((e.execute line).run s).2 lines addrs) :
    e.Visits s (line :: lines) (addr :: addrs) := by
  rw [Visits, executeAll]
  dsimp only
  rw [first, more]
  rfl

section

variable (pattern : e.lastPattern = some r)
  (word : (e.document.buffer.lineCount : Int) < sumLimit) (room : s.sink.room = none)

include pattern word room

theorem visits_round {order rest : List Nat} (first : 1 ≤ e.document.cursor)
    (last : e.document.cursor ≤ e.document.buffer.lineCount)
    (ahead : e.document.buffer.round r d e.document.cursor = order ++ rest) :
    e.Visits s (List.replicate order.length (searchAgain d)) order := by
  induction order generalizing e s rest with
  | nil => rfl
  | cons addr order ih =>
      rw [List.cons_append] at ahead
      obtain ⟨found, onward⟩ := Buffer.round_next first last ahead
      obtain ⟨⟨above, below⟩, -⟩ := Buffer.mem_matching.mp (Buffer.head_matching last ahead)
      have reached := execute_searchAgain pattern word room ⟨above, below⟩ found
      rw [List.append_assoc] at onward
      exact .cons reached (ih (e := e.moveTo addr) pattern word
        ((e.execute (searchAgain d)).run_room room) above below onward)

theorem visits_back (here : e.document.cursor ∈ e.document.buffer.matching r) :
    ∃ addr ∈ e.document.buffer.matching r,
      e.Visits s [searchAgain d, searchAgain d.opposite] [addr, e.document.cursor] := by
  obtain ⟨⟨first, last⟩, -⟩ := Buffer.mem_matching.mp here
  obtain ⟨addr, rest, ahead⟩ : ∃ addr rest,
      e.document.buffer.round r d e.document.cursor = addr :: rest := by
    refine List.exists_cons_of_ne_nil fun none => ?_
    rw [← (Buffer.round_perm r d last).mem_iff, none] at here
    cases here
  have there := Buffer.head_matching last ahead
  obtain ⟨inside, -⟩ := Buffer.mem_matching.mp there
  have reached := execute_searchAgain pattern word room inside (Buffer.round_next first last ahead).1
  have back := execute_searchAgain (e := e.moveTo addr) pattern word
    ((e.execute (searchAgain d)).run_room room) ⟨first, last⟩ (Buffer.search_opposite here ahead)
  exact ⟨addr, there, .cons reached (.cons back rfl)⟩

end

/-- Where the last pattern matches the current line, as many searches for it as there are matching
lines come to each of them once, upward or downward, and back to the line they set out from. A search
one way and then the other stays where it was. The last line has an address that is a word, as it has
in every document that can be held in memory. -/
theorem searchAgain_visits {e : Editor} {r : Regex} {s : Surroundings} (pattern : e.lastPattern = some r)
    (here : e.document.cursor ∈ e.document.buffer.matching r)
    (word : (e.document.buffer.lineCount : Int) < sumLimit) (room : s.sink.room = none) :
    let current := e.document.cursor
    let found := e.document.buffer.matching r
    let upward := found.filter (current < ·) ++ found.filter (· ≤ current)
    let downward := (found.filter (· < current)).reverse ++ (found.filter (current ≤ ·)).reverse
    (e.Visits s (List.replicate found.length ['/', '/']) upward ∧
      upward.Perm found ∧ upward.getLast? = some current) ∧
    (e.Visits s (List.replicate found.length ['?', '?']) downward ∧
      downward.Perm found ∧ downward.getLast? = some current) ∧
    found.Pairwise (· < ·) ∧
    (∃ addr ∈ found, e.Visits s [['/', '/'], ['?', '?']] [addr, current]) ∧
    ∃ addr ∈ found, e.Visits s [['?', '?'], ['/', '/']] [addr, current] := by
  intro current found upward downward
  obtain ⟨⟨first, last⟩, -⟩ := Buffer.mem_matching.mp here
  have tours (d : Direction) :
      e.Visits s (List.replicate found.length (searchAgain d)) (e.document.buffer.round r d current) ∧
        (e.document.buffer.round r d current).Perm found ∧
        (e.document.buffer.round r d current).getLast? = some current := by
    have perm : (e.document.buffer.round r d current).Perm found := Buffer.round_perm r d last
    obtain ⟨others, ends, -⟩ := Buffer.round_opposite d here
    refine ⟨?_, perm, ?_⟩
    · rw [← perm.length_eq]
      exact visits_round pattern word room first last (List.append_nil _).symm
    · rw [ends, List.getLast?_concat]
  refine ⟨?_, ?_, Buffer.pairwise_matching _ r, visits_back (d := .forward) pattern word room here,
    visits_back (d := .backward) pattern word room here⟩
  · rw [show upward = _ from (Buffer.round_forward r last).symm]
    exact tours .forward
  · rw [show downward = _ from (Buffer.round_backward r first last).symm]
    exact tours .backward

theorem searchAgain_visits_wrapped :
    let r : Regex := ⟨['a'], false, .ofExpr (.set (.single 'a')) 0, []⟩
    let e : Editor := ⟨⟨⟨[['a'], ['b'], ['c', 'a']]⟩, 1, false, none⟩, some r, none⟩
    let s : Surroundings := ⟨⟨[], false⟩, ⟨[], none⟩, .empty []⟩
    e.document.buffer.matching r = [1, 3] ∧ e.document.cursor ∈ e.document.buffer.matching r ∧
      (e.document.buffer.lineCount : Int) < sumLimit ∧ s.sink.room = none ∧
      e.Visits s [['/', '/'], ['/', '/']] [3, 1] ∧ e.Visits s [['?', '?'], ['?', '?']] [3, 1] := by
  intro r e s
  have matching : e.document.buffer.matching r = [1, 3] := by decide +kernel
  have here : e.document.cursor ∈ e.document.buffer.matching r := by
    rw [matching]
    decide
  obtain ⟨⟨upward, -⟩, ⟨downward, -⟩, -⟩ := searchAgain_visits (s := s) rfl here (by decide) rfl
  rw [matching] at upward downward
  exact ⟨matching, here, by decide, rfl, upward, downward⟩

end Editor

end LineEditor
