import LineEditor.Search

/-! The order in which a search visits the lines, once round the document, the line it stops at, and
the lines it has tested by then. -/
namespace LineEditor

namespace Direction

def visits (d : Direction) (count : Nat) : Nat → Nat → List Nat
  | 0, _ => []
  | steps + 1, addr => d.step count addr :: visits d count steps (d.step count addr)

/-- Once round from an address: the lines on one side of it, and then from the other end of the
document up to the line itself. -/
def tour (d : Direction) (count start : Nat) : List Nat :=
  match d with
  | forward => List.range' (start + 1) (count - start) ++ List.range' 1 start
  | backward =>
      (List.range' 1 (start - 1)).reverse ++
        (List.range' (max start 1) (count + 1 - max start 1)).reverse

variable {count start steps : Nat}

theorem visits_up (more : Nat) (inside : start + steps ≤ count) :
    forward.visits count (steps + more) start =
      List.range' (start + 1) steps ++ forward.visits count more (start + steps) := by
  induction steps generalizing start with
  | zero => rw [Nat.zero_add, List.range'_zero, List.nil_append, Nat.add_zero]
  | succ steps ih =>
      have next : forward.step count start = start + 1 := by
        rw [step, Nat.mod_eq_of_lt (by omega)]
      have onward : start + 1 + steps = start + (steps + 1) := by omega
      rw [Nat.succ_add, visits, next, ih (by omega), List.range'_succ, List.cons_append, onward]

theorem visits_top (inside : steps ≤ count) :
    forward.visits count steps count = List.range' 1 steps := by
  cases steps with
  | zero => rfl
  | succ steps =>
      have next : forward.step count count = 1 := by rw [step, Nat.mod_self]
      have up : forward.visits count (steps + 0) 1 = _ := visits_up 0 (by omega)
      rw [Nat.add_zero, visits, List.append_nil] at up
      rw [visits, next, up, List.range'_succ]

theorem visits_down (more : Nat) (inside : steps < start) :
    backward.visits count (steps + more) start =
      (List.range' (start - steps) steps).reverse ++
        backward.visits count more (start - steps) := by
  induction steps generalizing start with
  | zero => rw [Nat.zero_add, List.range'_zero, List.reverse_nil, List.nil_append, Nat.sub_zero]
  | succ steps ih =>
      have next : backward.step count start = start - 1 := if_neg (by omega)
      have last : start - (steps + 1) + steps = start - 1 := by omega
      have onward : start - 1 - steps = start - (steps + 1) := by omega
      rw [Nat.succ_add, visits, next, ih (by omega), List.range'_1_concat, List.reverse_append,
        List.reverse_singleton, List.singleton_append, List.cons_append, last, onward]

theorem visits_bottom (first : start ≤ 1) (inside : steps < count) :
    backward.visits count (steps + 1) start =
      (List.range' (count - steps) (steps + 1)).reverse := by
  have next : backward.step count start = count := if_pos first
  have down : backward.visits count (steps + 0) count = _ := visits_down 0 inside
  rw [Nat.add_zero, visits, List.append_nil] at down
  rw [visits, next, down, List.range'_1_concat, List.reverse_append, List.reverse_singleton,
    List.singleton_append, Nat.sub_add_cancel (Nat.le_of_lt inside)]

theorem visits_tour (d : Direction) (inside : start ≤ count) :
    d.visits count count start = d.tour count start := by
  cases d with
  | forward =>
      have up : forward.visits count (count - start + start) start = _ :=
        visits_up start (by omega)
      rw [Nat.sub_add_cancel inside, Nat.add_sub_cancel' inside, visits_top inside] at up
      exact up
  | backward =>
      cases start with
      | zero =>
          cases count with
          | zero => rfl
          | succ count =>
              have wrapped : backward.visits (count + 1) (count + 1) 0 = _ :=
                visits_bottom (Nat.zero_le 1) (Nat.lt_succ_self count)
              rw [wrapped, Nat.succ_sub (Nat.le_refl count), Nat.sub_self]
              rfl
      | succ start =>
          have down : backward.visits count (start + (count - (start + 1) + 1)) (start + 1) = _ :=
            visits_down _ (Nat.lt_succ_self start)
          have wrapped : backward.visits count (count - (start + 1) + 1) 1 = _ :=
            visits_bottom (Nat.le_refl 1) (by omega)
          have all : start + (count - (start + 1) + 1) = count := by omega
          have first : count - (count - (start + 1)) = start + 1 := by omega
          have length : count - (start + 1) + 1 = count + 1 - (start + 1) := by omega
          have here : start + 1 - start = 1 := Nat.add_sub_cancel_left start 1
          rw [all, here, wrapped, first, length] at down
          rw [down, tour, Nat.add_sub_cancel, Nat.max_eq_left (Nat.succ_le_succ (Nat.zero_le start))]

theorem tour_perm (d : Direction) (inside : start ≤ count) :
    (d.tour count start).Perm (List.range' 1 count) := by
  cases d with
  | forward =>
      have whole : List.range' 1 start ++ List.range' (start + 1) (count - start) =
          List.range' 1 count := by
        rw [Nat.add_comm start 1, List.range'_append_1, Nat.add_sub_cancel' inside]
      rw [tour, ← whole]
      exact List.perm_append_comm
  | backward =>
      have whole : List.range' 1 (start - 1) ++
          List.range' (max start 1) (count + 1 - max start 1) = List.range' 1 count := by
        have first : max start 1 = 1 + (start - 1) := by omega
        have length : start - 1 + (count + 1 - (1 + (start - 1))) = count := by omega
        rw [first, List.range'_append_1, length]
      rw [tour, ← whole]
      exact (List.reverse_perm _).append (List.reverse_perm _)

theorem mem_tour_iff (d : Direction) {addr : Nat} (inside : start ≤ count) :
    addr ∈ d.tour count start ↔ 1 ≤ addr ∧ addr ≤ count := by
  rw [(d.tour_perm inside).mem_iff, List.mem_range'_1]
  omega

section

variable {addr : Nat} {before behind : List Nat}

def opposite : Direction → Direction
  | forward => backward
  | backward => forward

/-- A tour ends on the line it set out from. The lines before that are visited the other way round in
the opposite order. -/
theorem tour_opposite (d : Direction) (first : 1 ≤ start) (last : start ≤ count) :
    ∃ others, d.tour count start = others ++ [start] ∧
      d.opposite.tour count start = others.reverse ++ [start] := by
  let below := List.range' 1 (start - 1)
  let above := List.range' (start + 1) (count - start)
  have up : forward.tour count start = (above ++ below) ++ [start] := by
    have here : List.range' 1 start = below ++ [start] := by
      obtain ⟨n, rfl⟩ := Nat.exists_eq_add_of_le' first
      rw [List.range'_1_concat, Nat.add_comm 1 n]
      rfl
    rw [tour, here, List.append_assoc]
  have down : backward.tour count start = (above ++ below).reverse ++ [start] := by
    have here : List.range' start (count + 1 - start) = start :: above := by
      rw [Nat.succ_sub last, List.range'_succ]
    rw [tour, Nat.max_eq_left first, here, List.reverse_append, List.reverse_cons,
      List.append_assoc]
  cases d with
  | forward => exact ⟨above ++ below, up, down⟩
  | backward =>
      refine ⟨(above ++ below).reverse, down, ?_⟩
      rw [List.reverse_reverse]
      exact up

theorem visits_behind (d : Direction)
    (route : d.visits count steps start = before ++ addr :: behind) (more : Nat) :
    d.visits count (before.length + 1 + more) start = before ++ addr :: d.visits count more addr := by
  induction before generalizing steps start with
  | nil =>
      cases steps with
      | zero => cases route
      | succ steps =>
          injection route with here
          rw [List.length_nil, Nat.zero_add, Nat.add_comm 1 more, visits, here, List.nil_append]
  | cons other before ih =>
      cases steps with
      | zero => cases route
      | succ steps =>
          injection route with here rest
          rw [here] at rest
          rw [List.length_cons, Nat.add_right_comm, visits, here, ih rest, List.cons_append]

theorem tour_onward (d : Direction) (first : 1 ≤ start) (last : start ≤ count)
    (route : d.tour count start = before ++ addr :: behind) :
    d.tour count addr = behind ++ (before ++ [addr]) := by
  have inside : addr ≤ count := by
    have member : addr ∈ d.tour count start := by simp [route]
    exact ((d.mem_tour_iff last).mp member).2
  obtain ⟨others, around, -⟩ := d.tour_opposite first last
  have length : others.length + 1 = count := by
    have all := (d.tour_perm last).length_eq
    rwa [around, List.length_append, List.length_range'] at all
  rw [← d.visits_tour last] at route around
  have again : d.visits count (count + (before.length + 1)) start =
      (before ++ addr :: behind) ++ (before ++ [addr]) := by
    have next := d.visits_behind around (before.length + 1)
    have front := d.visits_behind route 0
    rw [Nat.add_zero] at front
    rw [length, front, List.append_cons, ← around, route] at next
    exact next
  have onward := d.visits_behind route count
  rw [Nat.add_comm, again, List.append_assoc, List.cons_append] at onward
  have same := List.append_cancel_left onward
  rw [← d.visits_tour inside]
  exact (List.cons.inj same).2.symm

end

end Direction

namespace Buffer

variable {b : Buffer} {d : Direction} {test : Text → Bool} {P : Text → Prop} {addr : Nat}

def LineAt (b : Buffer) (addr : Nat) (P : Text → Prop) : Prop :=
  ∃ line, b.getLine addr = some line ∧ P line

def IsFirst (b : Buffer) (tour : List Nat) (P : Text → Prop) (addr : Nat) : Prop :=
  ∃ before behind, tour = before ++ addr :: behind ∧ b.LineAt addr P ∧
    ∀ other ∈ before, ¬ b.LineAt other P

theorem IsFirst.inside {tour : List Nat} (first : b.IsFirst tour P addr) :
    1 ≤ addr ∧ addr ≤ b.lineCount := by
  obtain ⟨-, -, -, ⟨line, here, -⟩, -⟩ := first
  cases addr with
  | zero => cases here
  | succ n => exact ⟨Nat.succ_pos n, (List.getElem?_eq_some_iff.mp here).1⟩

/-- What comes of going along addresses up to the first whose line has a property: the address and
the lines so far, or no address and all lines. -/
inductive Stops (b : Buffer) (P : Text → Prop) : List Nat → Option Nat × List Text → Prop where
  | found {before behind : List Nat} {addr : Nat} (here : b.LineAt addr P)
      (earlier : ∀ other ∈ before, ¬ b.LineAt other P) :
      Stops b P (before ++ addr :: behind) (some addr, (before ++ [addr]).filterMap b.getLine)
  | missed {addrs : List Nat} (absent : ∀ addr ∈ addrs, ¬ b.LineAt addr P) :
      Stops b P addrs (none, addrs.filterMap b.getLine)

theorem Stops.here {line : Text} (addrs : List Nat) (there : b.getLine addr = some line)
    (holds : P line) : b.Stops P (addr :: addrs) (some addr, [line]) := by
  have first : b.Stops P ([] ++ addr :: addrs) _ := .found ⟨line, there, holds⟩ (by rintro _ ⟨⟩)
  simpa [there] using first

theorem Stops.pass {addrs : List Nat} {result : Option Nat × List Text}
    (stops : b.Stops P addrs result) (missed : ¬ b.LineAt addr P) :
    b.Stops P (addr :: addrs) (result.1, (b.getLine addr).toList ++ result.2) := by
  have tested (lines : List Nat) : (b.getLine addr).toList ++ lines.filterMap b.getLine =
      (addr :: lines).filterMap b.getLine := by
    rw [List.filterMap_cons]
    cases b.getLine addr <;> rfl
  cases stops with
  | @found before behind other here earlier =>
      have passed : ∀ other ∈ addr :: before, ¬ b.LineAt other P :=
        List.forall_mem_cons.mpr ⟨missed, earlier⟩
      rw [tested]
      exact @Stops.found b P (addr :: before) behind other here passed
  | missed absent =>
      rw [tested]
      exact .missed (List.forall_mem_cons.mpr ⟨missed, absent⟩)

theorem searchFrom_stops (passes : ∀ line, test line = true ↔ P line) (steps start : Nat) :
    b.Stops P (d.visits b.lineCount steps start) (b.searchFrom d test steps start) := by
  induction steps generalizing start with
  | zero => exact .missed (by rintro _ ⟨⟩)
  | succ steps ih =>
      have later := ih (d.step b.lineCount start)
      rw [Direction.visits]
      cases line : b.getLine (d.step b.lineCount start) with
      | none =>
          have missed : ¬ b.LineAt (d.step b.lineCount start) P := by
            rintro ⟨_, here, -⟩
            rw [line] at here
            cases here
          simpa [searchFrom, line] using later.pass missed
      | some text =>
          cases passed : test text with
          | true => simpa [searchFrom, line, passed] using .here _ line ((passes text).mp passed)
          | false =>
              have missed : ¬ b.LineAt (d.step b.lineCount start) P := by
                rintro ⟨_, here, holds⟩
                cases line.symm.trans here
                rw [(passes text).mpr holds] at passed
                cases passed
              simpa [searchFrom, line, passed] using later.pass missed

theorem searchTested_stops (passes : ∀ line, test line = true ↔ P line) (b : Buffer)
    (start : Nat) (d : Direction) :
    b.Stops P (d.tour b.lineCount (min start b.lineCount)) (b.searchTested start d test) := by
  rw [← d.visits_tour (Nat.min_le_right start b.lineCount)]
  exact searchFrom_stops passes _ _

theorem exists_lineAt {line : Text} (member : line ∈ b.lines) (holds : P line) :
    ∃ addr, 1 ≤ addr ∧ addr ≤ b.lineCount ∧ b.LineAt addr P := by
  obtain ⟨i, inside, rfl⟩ := List.getElem_of_mem member
  exact ⟨i + 1, Nat.succ_pos i, inside, _, List.getElem?_eq_getElem inside, holds⟩

theorem search_tour (passes : ∀ line, test line = true ↔ P line) (b : Buffer) (start : Nat)
    (d : Direction) :
    (∃ addr, b.IsFirst (d.tour b.lineCount (min start b.lineCount)) P addr ∧
      b.search start d test = .ok addr) ∨
    (∀ line ∈ b.lines, ¬ P line) ∧ b.search start d test = .error .noMatch := by
  have stops := searchTested_stops passes b start d
  unfold search
  generalize route : d.tour b.lineCount (min start b.lineCount) = tour at stops ⊢
  generalize b.searchTested start d test = result at stops ⊢
  cases stops with
  | found here earlier => exact .inl ⟨_, ⟨_, _, rfl, here, earlier⟩, rfl⟩
  | missed absent =>
      refine .inr ⟨fun line member holds => ?_, rfl⟩
      obtain ⟨addr, first, last, there⟩ := exists_lineAt member holds
      rw [← route] at absent
      exact absent addr ((d.mem_tour_iff (Nat.min_le_right _ _)).mpr ⟨first, last⟩) there

theorem map_some_filterMap_getLine {addrs : List Nat}
    (inside : ∀ addr ∈ addrs, 1 ≤ addr ∧ addr ≤ b.lineCount) :
    (addrs.filterMap b.getLine).map some = addrs.map b.getLine := by
  induction addrs with
  | nil => rfl
  | cons addr addrs ih =>
      obtain ⟨here, others⟩ := List.forall_mem_cons.mp inside
      obtain ⟨line, found⟩ := getLine_isSome here.1 here.2
      rw [List.filterMap_cons_some found, List.map_cons, List.map_cons, ih others, found]

theorem filterMap_getLine (b : Buffer) :
    (List.range' 1 b.lineCount).filterMap b.getLine = b.lines := by
  have each : (List.range' 1 b.lineCount).map b.getLine = b.lines.map some := by
    refine List.ext_getElem? fun i => ?_
    by_cases inside : i < b.lineCount
    · have here : b.lines[i]? = some b.lines[i] := List.getElem?_eq_getElem inside
      simp [inside, Nat.add_comm 1 i, getLine, here]
    · have beyond : b.lines.length ≤ i := Nat.le_of_not_lt inside
      simp [inside, beyond]
  refine (List.map_inj_right fun _ _ => Option.some.inj).mp ?_
  rw [← each]
  refine map_some_filterMap_getLine fun addr member => ?_
  rw [List.mem_range'_1] at member
  omega

theorem mem_lines_of_lineAt (there : b.LineAt addr P) : ∃ line ∈ b.lines, P line := by
  obtain ⟨line, here, holds⟩ := there
  cases addr with
  | zero => cases here
  | succ n => exact ⟨line, List.mem_of_getElem? here, holds⟩

theorem search_noMatch_iff (b : Buffer) (start : Nat) (d : Direction) (test : Text → Bool) :
    b.search start d test = .error .noMatch ↔ ∀ line ∈ b.lines, test line = false := by
  rcases search_tour (fun line => Iff.rfl) b start d with ⟨addr, first, found⟩ | ⟨none, missed⟩
  · obtain ⟨-, -, -, there, -⟩ := first
    obtain ⟨line, member, holds⟩ := mem_lines_of_lineAt there
    rw [found]
    refine ⟨by rintro ⟨⟩, fun all => ?_⟩
    rw [all line member] at holds
    cases holds
  · exact ⟨fun _ line member => Bool.eq_false_iff.mpr (none line member), fun _ => missed⟩

/-- A search tests the lines in the order of its tour, which has every line once, and stops at the
first that passes. It fails only when none does, and has then tested all of them. -/
theorem search_in_order (b : Buffer) (start : Nat) (d : Direction) (test : Text → Bool) :
    let order := d.tour b.lineCount (min start b.lineCount)
    let tested := (b.searchTested start d test).2
    order.Perm (List.range' 1 b.lineCount) ∧
    (b.search start d test = .error .noMatch ↔ ∀ line ∈ b.lines, test line = false) ∧
    ((∃ before addr behind, order = before ++ addr :: behind ∧
        b.LineAt addr (test · = true) ∧ (∀ other ∈ before, b.LineAt other (test · = false)) ∧
        b.search start d test = .ok addr ∧
        tested.map some = (before ++ [addr]).map b.getLine) ∨
      b.search start d test = .error .noMatch ∧ tested.map some = order.map b.getLine ∧
        tested.Perm b.lines ∧ tested.length = b.lineCount) := by
  intro order tested
  have once : order.Perm (List.range' 1 b.lineCount) := d.tour_perm (Nat.min_le_right _ _)
  have inside (addr : Nat) (member : addr ∈ order) : 1 ≤ addr ∧ addr ≤ b.lineCount :=
    (d.mem_tour_iff (Nat.min_le_right _ _)).mp member
  have stops : b.Stops (test · = true) order (b.searchTested start d test) :=
    searchTested_stops (fun line => Iff.rfl) b start d
  refine ⟨once, search_noMatch_iff b start d test, ?_⟩
  unfold search
  dsimp only [tested]
  generalize order = order at once inside stops ⊢
  generalize b.searchTested start d test = result at stops ⊢
  cases stops with
  | @found before behind addr here earlier =>
      refine .inl ⟨before, addr, behind, rfl, here, fun other member => ?_, rfl, ?_⟩
      · have within := inside other (List.mem_append_left _ member)
        obtain ⟨line, there⟩ := getLine_isSome within.1 within.2
        refine ⟨line, there, Bool.eq_false_iff.mpr fun passed => ?_⟩
        exact earlier other member ⟨line, there, passed⟩
      · refine map_some_filterMap_getLine fun other member => inside other ?_
        rw [List.append_cons]
        exact List.mem_append_left _ member
  | missed absent =>
      have all : (order.filterMap b.getLine).Perm b.lines := by
        rw [← b.filterMap_getLine]
        exact once.filterMap b.getLine
      exact .inr ⟨rfl, map_some_filterMap_getLine inside, all, all.length_eq⟩

end Buffer

end LineEditor
