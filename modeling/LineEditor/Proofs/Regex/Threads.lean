import LineEditor.Proofs.Regex.Paths

/-! Threads against paths. A match that is found is the end of a path, and the beginning of any path
is not left of it: following a thread reaches every instruction that is reached without reading, and
a thread is dropped only for one that started no further right. -/
namespace LineEditor.Regex.Program

variable {p : Program} {place origin : Place} {front : Front} {stack : List Thread} {t : Thread}
  {fuel : Nat} {found : Option Match}

def exits (p : Program) (place : Place) (pc : Nat) : List Nat :=
  match p.code[pc]? with
  | some (.split first second) => [first, second]
  | some (.look l next) => if l.holds place.before place.rest.head? then [next] else []
  | some (.save _ next) => [next]
  | _ => []

def waits (p : Program) (pc : Nat) : Bool :=
  match p.code[pc]? with
  | some (.read _ _) | some .accept => true
  | _ => false

def stored (p : Program) (place : Place) (t : Thread) : Array (Option Nat) :=
  match p.code[t.pc]? with
  | some (.save slot _) => t.slots.setIfInBounds slot (some place.offset)
  | _ => t.slots

def passed (p : Program) (place : Place) (t : Thread) : List Thread :=
  (p.exits place t.pc).map fun pc => ⟨pc, t.start, p.stored place t⟩

def reach (p : Program) (t : Thread) (front : Front) : Front where
  reached := front.reached.setIfInBounds t.pc true
  threads := if p.waits t.pc then front.threads.push t else front.threads

theorem threads_reach (p : Program) (t : Thread) (front : Front) :
    (p.reach t front).threads.toList =
      front.threads.toList ++ if p.waits t.pc then [t] else [] := by
  unfold reach
  split <;> simp

def followAt (p : Program) (place : Place) (fuel : Nat) (stack : List Thread) (front : Front) :
    Front :=
  p.follow place.offset place.before place.rest.head? fuel stack front

def enterAt (p : Program) (place : Place) (t : Thread) (front : Front) : Front :=
  p.followAt place (2 * p.code.size + 2) [t] front

theorem followAt_nil (p : Program) (place : Place) (fuel : Nat) (front : Front) :
    p.followAt place fuel [] front = front := by
  cases fuel <;> rfl

theorem followAt_cons (p : Program) (place : Place) (fuel : Nat) (t : Thread)
    (stack : List Thread) (front : Front) :
    p.followAt place (fuel + 1) (t :: stack) front =
      if front.reached.getD t.pc true then p.followAt place fuel stack front
      else p.followAt place fuel (p.passed place t ++ stack) (p.reach t front) := by
  unfold followAt
  rw [follow]
  split
  · rfl
  · cases found : p.code[t.pc]? with
    | none => simp [passed, exits, reach, waits, found]
    | some i =>
        cases i with
        | look l next =>
            simp only [passed, exits, stored, reach, waits, found]
            split <;> simp
        | read | split | save | accept | fail =>
            simp [passed, exits, stored, reach, waits, found]

theorem followAt_threads {P : Thread → Prop}
    (step : ∀ t, P t → ∀ u ∈ p.passed place t, P u) (all : ∀ t ∈ stack, P t) (fuel : Nat)
    (front : Front) :
    ∃ added, (p.followAt place fuel stack front).threads.toList = front.threads.toList ++ added ∧
      ∀ u ∈ added, P u ∧ p.waits u.pc = true := by
  induction fuel generalizing stack front with
  | zero => exact ⟨[], (List.append_nil _).symm, by simp⟩
  | succ fuel ih =>
      cases stack with
      | nil =>
          rw [followAt_nil]
          exact ⟨[], (List.append_nil _).symm, by simp⟩
      | cons t stack =>
          obtain ⟨here, rest⟩ := List.forall_mem_cons.mp all
          rw [followAt_cons]
          split
          · exact ih rest front
          · obtain ⟨added, same, good⟩ :=
              ih (List.forall_mem_append.mpr ⟨step t here, rest⟩) (p.reach t front)
            rw [threads_reach, List.append_assoc] at same
            refine ⟨_, same, List.forall_mem_append.mpr ⟨fun u member => ?_, good⟩⟩
            split at member
            · next waiting => exact List.mem_singleton.mp member ▸ ⟨here, waiting⟩
            · cases member

/-- What is reached goes no further without reading, but for threads that are still to be followed.
-/
structure Closed (p : Program) (place : Place) (stack : List Thread) (front : Front) : Prop where
  size : front.reached.size = p.code.size
  waiting : ∀ pc, front.reached[pc]? = some true → p.waits pc = true →
    ∃ u ∈ front.threads.toList, u.pc = pc
  passing : ∀ pc, front.reached[pc]? = some true → ∀ exit ∈ p.exits place pc,
    front.reached[exit]? = some true ∨ p.code.size ≤ exit ∨ ∃ u ∈ stack, u.pc = exit

theorem closed_emptyFront (p : Program) (place : Place) : p.Closed place [] p.emptyFront where
  size := Array.size_replicate
  waiting pc reached := by simp [emptyFront, Array.getElem?_replicate] at reached
  passing pc reached := by simp [emptyFront, Array.getElem?_replicate] at reached

theorem Closed.skip (closed : p.Closed place (t :: stack) front)
    (old : front.reached.getD t.pc true = true) :
    p.Closed place stack front ∧ (t.pc < p.code.size → front.reached[t.pc]? = some true) := by
  have known : front.reached[t.pc]? = some true ∨ p.code.size ≤ t.pc := by
    rw [← closed.size]
    by_cases inside : t.pc < front.reached.size
    · left
      simpa [Array.getD, inside] using old
    · exact .inr (Nat.le_of_not_lt inside)
  refine ⟨{ closed with passing := fun pc reached exit behind => ?_ }, fun inside => ?_⟩
  · rcases closed.passing pc reached exit behind with h | h | ⟨u, member, same⟩
    · exact .inl h
    · exact .inr (.inl h)
    · rcases List.mem_cons.mp member with rfl | member
      · rw [← same]
        exact known.imp_right .inl
      · exact .inr (.inr ⟨u, member, same⟩)
  · exact known.resolve_right (Nat.not_le_of_lt inside)

theorem reached_reach {pc : Nat} (front : Front) (inside : t.pc < front.reached.size) :
    (p.reach t front).reached[pc]? = some true ↔ pc = t.pc ∨ front.reached[pc]? = some true := by
  simp only [reach, Array.getElem?_setIfInBounds]
  by_cases same : t.pc = pc
  · subst same
    simp [inside]
  · simp [same, Ne.symm same]

theorem Closed.reach (closed : p.Closed place (t :: stack) front)
    (inside : t.pc < p.code.size) :
    p.Closed place (p.passed place t ++ stack) (p.reach t front) := by
  have bound : t.pc < front.reached.size := by rwa [closed.size]
  refine ⟨by simp [Program.reach, closed.size], fun pc reached waiting => ?_,
    fun pc reached exit behind => ?_⟩
  · rw [threads_reach]
    rcases (reached_reach front bound).mp reached with rfl | reached
    · exact ⟨t, List.mem_append_right _ (by simp [waiting]), rfl⟩
    · obtain ⟨u, member, same⟩ := closed.waiting pc reached waiting
      exact ⟨u, List.mem_append_left _ member, same⟩
  · rw [reached_reach front bound]
    rcases (reached_reach front bound).mp reached with rfl | reached
    · exact .inr (.inr ⟨⟨exit, t.start, p.stored place t⟩,
        List.mem_append_left _ (List.mem_map.mpr ⟨exit, behind, rfl⟩), rfl⟩)
    · rcases closed.passing pc reached exit behind with h | h | ⟨u, member, same⟩
      · exact .inl (.inr h)
      · exact .inr (.inl h)
      · rcases List.mem_cons.mp member with rfl | member
        · exact .inl (.inl same.symm)
        · exact .inr (.inr ⟨u, List.mem_append_right _ member, same⟩)

theorem length_passed_le (p : Program) (place : Place) (t : Thread) :
    (p.passed place t).length ≤ 2 := by
  rw [passed, List.length_map, exits]
  split <;> try simp
  split <;> simp

theorem unreached (fresh : ¬ front.reached.getD t.pc true = true) :
    ∃ inside : t.pc < front.reached.size, front.reached[t.pc] = false := by
  by_cases inside : t.pc < front.reached.size
  · exact ⟨inside, by simpa [Array.getD, inside] using fresh⟩
  · simp [Array.getD, inside] at fresh

/-- Each instruction is reached once, so the rounds suffice. -/
theorem count_reach (fresh : ¬ front.reached.getD t.pc true = true) :
    (p.reach t front).reached.toList.count false + 1 = front.reached.toList.count false := by
  obtain ⟨inside, missing⟩ := unreached fresh
  have positive : 0 < front.reached.toList.count false :=
    List.count_pos_iff.mpr (Array.mem_toList_iff.mpr (missing ▸ Array.getElem_mem inside))
  simp only [reach, Array.toList_setIfInBounds]
  rw [List.count_set inside, Array.getElem_toList, missing]
  exact Nat.sub_add_cancel positive

theorem Closed.followAt (closed : p.Closed place stack front)
    (rounds : stack.length + 2 * front.reached.toList.count false ≤ fuel) :
    p.Closed place [] (p.followAt place fuel stack front) ∧
      ∀ pc, (front.reached[pc]? = some true ∨ pc < p.code.size ∧ ∃ t ∈ stack, t.pc = pc) →
        (p.followAt place fuel stack front).reached[pc]? = some true := by
  induction fuel generalizing stack front with
  | zero =>
      obtain rfl : stack = [] := List.length_eq_zero_iff.mp (by omega)
      exact ⟨closed, fun pc h => h.resolve_right (by simp)⟩
  | succ fuel ih =>
      cases stack with
      | nil =>
          rw [followAt_nil]
          exact ⟨closed, fun pc h => h.resolve_right (by simp)⟩
      | cons t stack =>
          rw [followAt_cons]
          split
          · next old =>
            obtain ⟨rest, known⟩ := closed.skip old
            obtain ⟨done, kept⟩ := ih rest (by rw [List.length_cons] at rounds; omega)
            refine ⟨done, fun pc h => kept pc ?_⟩
            rcases h with h | ⟨inside, u, member, rfl⟩
            · exact .inl h
            · rcases List.mem_cons.mp member with rfl | member
              · exact .inl (known inside)
              · exact .inr ⟨inside, u, member, rfl⟩
          · next fresh =>
            obtain ⟨inside, -⟩ := unreached fresh
            have fewer := count_reach (p := p) fresh
            have most := p.length_passed_le place t
            obtain ⟨done, kept⟩ := ih (closed.reach (closed.size ▸ inside)) (by
              rw [List.length_append]
              rw [List.length_cons] at rounds
              omega)
            refine ⟨done, fun pc h => kept pc ?_⟩
            rw [reached_reach front inside]
            rcases h with h | ⟨bound, u, member, rfl⟩
            · exact .inl (.inr h)
            · rcases List.mem_cons.mp member with rfl | member
              · exact .inl (.inl rfl)
              · exact .inr ⟨bound, u, List.mem_append_right _ member, rfl⟩

theorem lt_size_of_accepts {pc : Nat} {q : Place} (accepts : Accepts p.code pc place q) :
    pc < p.code.size := by
  obtain ⟨n, leads⟩ := accepts
  have found : ∃ i, p.code[pc]? = some i := by cases leads <;> exact ⟨_, ‹_›⟩
  obtain ⟨i, found⟩ := found
  exact (Array.getElem?_eq_some_iff.mp found).1

theorem Closed.onward {pc exit : Nat} {q : Place} (closed : p.Closed place [] front)
    (reached : front.reached[pc]? = some true) (behind : exit ∈ p.exits place pc)
    (accepts : Accepts p.code exit place q) : front.reached[exit]? = some true := by
  rcases closed.passing pc reached exit behind with h | outside | ⟨u, none, -⟩
  · exact h
  · exact absurd (lt_size_of_accepts accepts) (Nat.not_lt_of_le outside)
  · cases none

/-- Once nothing is left to follow, a thread waits on every path that goes through the front. -/
theorem Closed.accepts {pc : Nat} {q : Place} (closed : p.Closed place [] front)
    (reached : front.reached[pc]? = some true) (accepts : Accepts p.code pc place q) :
    ∃ u ∈ front.threads.toList, Accepts p.code u.pc place q := by
  obtain ⟨n, leads⟩ := accepts
  induction leads with
  | accept place found =>
      obtain ⟨u, member, rfl⟩ := closed.waiting _ reached (by simp [waits, found])
      exact ⟨u, member, .accept place found⟩
  | read found contained more _ =>
      obtain ⟨u, member, rfl⟩ := closed.waiting _ reached (by simp [waits, found])
      exact ⟨u, member, .read found contained ⟨_, more⟩⟩
  | first found more ih | second found more ih =>
      exact ih closed (closed.onward reached (by simp [exits, found]) ⟨_, more⟩)
  | look found holds more ih =>
      exact ih closed (closed.onward reached (by simp [exits, found, holds]) ⟨_, more⟩)
  | save found more ih =>
      exact ih closed (closed.onward reached (by simp [exits, found]) ⟨_, more⟩)

theorem Closed.enterAt (closed : p.Closed place [] front) (t : Thread) :
    p.Closed place [] (p.enterAt place t front) ∧
      ∀ q, Accepts p.code t.pc place q →
        ∃ u ∈ (p.enterAt place t front).threads.toList, Accepts p.code u.pc place q := by
  have waiting : p.Closed place [t] front :=
    { closed with passing := fun pc reached exit behind =>
        (closed.passing pc reached exit behind).imp_right fun h => h.imp_right fun h => by simp at h }
  have rounds : [t].length + 2 * front.reached.toList.count false ≤ 2 * p.code.size + 2 := by
    have most := List.count_le_length (a := false) (l := front.reached.toList)
    rw [Array.length_toList, closed.size] at most
    rw [List.length_singleton]
    omega
  obtain ⟨done, kept⟩ := waiting.followAt rounds
  refine ⟨done, fun q accepts => done.accepts (kept t.pc ?_) accepts⟩
  exact .inr ⟨lt_size_of_accepts accepts, t, List.mem_singleton_self t, rfl⟩

end LineEditor.Regex.Program
