import LineEditor.Proofs.Regex.Threads

/-! The match that a search finds: it is the end of a path, and no path begins left of it. -/
namespace LineEditor.Regex.Program

variable {p : Program} {origin place next : Place} {front : Front} {ts : List Thread} {t : Thread}
  {found : Option Match} {m : Match} {bound : Nat} {q : Place}

/-- A thread stands for a path: whatever it can reach can be reached from where it started. -/
structure Rooted (p : Program) (origin place : Place) (t : Thread) : Prop where
  slots : t.slots.size = 2 * p.groups
  path : ∃ root, origin.Ahead root ∧ root.Ahead place ∧ root.offset = t.start ∧
    ∀ q, Accepts p.code t.pc place q → Accepts p.code p.start root q

structure Finds (p : Program) (origin : Place) (m : Match) : Prop where
  slots : m.slots.size = 2 * p.groups
  path : ∃ root stop, origin.Ahead root ∧ root.offset = m.span.start ∧
    stop.offset = m.span.stop ∧ Accepts p.code p.start root stop

theorem Rooted.passed (rooted : p.Rooted origin place t) :
    ∀ u ∈ p.passed place t, p.Rooted origin place u := by
  intro u member
  obtain ⟨exit, behind, rfl⟩ := List.mem_map.mp member
  obtain ⟨slots, root, begins, ahead, start, reaches⟩ := rooted
  refine ⟨?_, root, begins, ahead, start, fun q accepts => reaches q ?_⟩
  · unfold stored
    split
    · rw [Array.size_setIfInBounds, slots]
    · exact slots
  · unfold exits at behind
    split at behind
    · next found =>
      rcases List.mem_cons.mp behind with rfl | behind
      · exact .first found accepts
      · obtain rfl := List.mem_singleton.mp behind
        exact .second found accepts
    · next found =>
      split at behind
      · next holds =>
        obtain rfl := List.mem_singleton.mp behind
        exact .look found holds accepts
      · cases behind
    · next found =>
      obtain rfl := List.mem_singleton.mp behind
      exact .save found accepts
    · cases behind

def fresh (p : Program) (place : Place) : Thread :=
  ⟨p.start, place.offset, Array.replicate (2 * p.groups) none⟩

theorem rooted_fresh (ahead : origin.Ahead place) : p.Rooted origin place (p.fresh place) where
  slots := Array.size_replicate
  path := ⟨place, ahead, .here place, rfl, fun _ accepts => accepts⟩

theorem Rooted.read {offset pc : Nat} {before : Option Char} {c : Char} {rest : Text} {s : CharSet}
    (rooted : p.Rooted origin ⟨offset, before, c :: rest⟩ t)
    (instr : p.code[t.pc]? = some (.read s pc)) (member : s.contains c = true) :
    p.Rooted origin ⟨offset + 1, some c, rest⟩ { t with pc } := by
  obtain ⟨slots, root, begins, ahead, start, reaches⟩ := rooted
  exact ⟨slots, root, begins, ahead.next, start,
    fun q accepts => reaches q (.read instr member accepts)⟩

theorem Rooted.finds (rooted : p.Rooted origin place t) (instr : p.code[t.pc]? = some .accept) :
    p.Finds origin ⟨⟨t.start, place.offset⟩, t.slots⟩ := by
  obtain ⟨slots, root, begins, ahead, start, reaches⟩ := rooted
  exact ⟨slots, root, place, begins, start, rfl, reaches place (.accept place instr)⟩

theorem Rooted.start_le (rooted : p.Rooted origin place t) : t.start ≤ place.offset := by
  obtain ⟨-, root, -, ahead, start, -⟩ := rooted
  exact start ▸ ahead.offset_le

/-- What is known of the threads at a place and of the match so far. The threads are in the order
in which they started, and none started behind the match. -/
structure Ready (p : Program) (origin place : Place) (front : Front) (found : Option Match) :
    Prop where
  closed : p.Closed place [] front
  rooted : ∀ t ∈ front.threads.toList, p.Rooted origin place t
  waiting : ∀ t ∈ front.threads.toList, p.waits t.pc = true
  sorted : front.threads.toList.Pairwise (·.start ≤ ·.start)
  left : ∀ m, found = some m → ∀ t ∈ front.threads.toList, t.start ≤ m.span.start
  early : ∀ m, found = some m → m.span.start ≤ place.offset
  finds : ∀ m, found = some m → p.Finds origin m

/-- A path to `q` is still followed, or given up, for no path that starts right of `bound`. -/
def Covers (p : Program) (place : Place) (ts : List Thread) (found : Option Match) (bound : Nat)
    (q : Place) : Prop :=
  (∃ t ∈ ts, t.start ≤ bound ∧ Accepts p.code t.pc place q) ∨
    ∃ m, found = some m ∧ m.span.start ≤ bound

theorem ready_emptyFront (p : Program) {origin place : Place}
    (early : ∀ m, found = some m → m.span.start ≤ place.offset)
    (finds : ∀ m, found = some m → p.Finds origin m) : p.Ready origin place p.emptyFront found where
  closed := p.closed_emptyFront place
  rooted := by simp [emptyFront]
  waiting := by simp [emptyFront]
  sorted := by simp [emptyFront]
  left := by simp [emptyFront]
  early := early
  finds := finds

theorem Ready.enterAt (ready : p.Ready origin place front found)
    (rooted : p.Rooted origin place t) (last : ∀ u ∈ front.threads.toList, u.start ≤ t.start)
    (left : ∀ m, found = some m → t.start ≤ m.span.start) :
    p.Ready origin place (p.enterAt place t front) found ∧
      (∀ u ∈ (p.enterAt place t front).threads.toList,
        u ∈ front.threads.toList ∨ u.start = t.start) ∧
      ∀ bound q, p.Covers place (t :: front.threads.toList) found bound q →
        p.Covers place (p.enterAt place t front).threads.toList found bound q := by
  have follows : ∃ added,
      (p.enterAt place t front).threads.toList = front.threads.toList ++ added ∧
        ∀ u ∈ added, (u.start = t.start ∧ p.Rooted origin place u) ∧ p.waits u.pc = true := by
    refine p.followAt_threads (fun u h v member => ⟨?_, h.2.passed v member⟩)
      (List.forall_mem_singleton.mpr ⟨rfl, rooted⟩) _ front
    obtain ⟨exit, -, rfl⟩ := List.mem_map.mp member
    exact h.1
  obtain ⟨added, same, good⟩ := follows
  obtain ⟨closed, accepted⟩ := ready.closed.enterAt t
  have starts : ∀ u ∈ (p.enterAt place t front).threads.toList,
      u ∈ front.threads.toList ∨ u.start = t.start := by
    rw [same]
    exact fun u member => (List.mem_append.mp member).imp_right fun new => (good u new).1.1
  refine ⟨⟨closed, ?_, ?_, ?_, fun m h u member => ?_, ready.early, ready.finds⟩, starts, ?_⟩
  · rw [same]
    exact List.forall_mem_append.mpr ⟨ready.rooted, fun u member => (good u member).1.2⟩
  · rw [same]
    exact List.forall_mem_append.mpr ⟨ready.waiting, fun u member => (good u member).2⟩
  · rw [same]
    refine List.pairwise_append.mpr ⟨ready.sorted, ?_, fun u old v new => ?_⟩
    · refine List.pairwise_of_forall_mem_list fun u first v second => ?_
      exact Nat.le_of_eq ((good u first).1.1.trans (good v second).1.1.symm)
    · rw [(good v new).1.1]
      exact last u old
  · rcases starts u member with old | start
    · exact ready.left m h u old
    · rw [start]
      exact left m h
  · rintro bound q (⟨u, member, early, accepts⟩ | h)
    · left
      rcases List.mem_cons.mp member with rfl | old
      · obtain ⟨v, member, accepts⟩ := accepted q accepts
        refine ⟨v, member, ?_, accepts⟩
        rcases starts v member with old | start
        · exact Nat.le_trans (last v old) early
        · rwa [start]
      · exact ⟨u, same ▸ List.mem_append_left _ old, early, accepts⟩
    · exact .inr h

def readAt (p : Program) (place : Place) (ts : List Thread) (front : Front)
    (found : Option Match) : Front × Option Match :=
  p.readAll place.offset place.rest.head? place.rest.tail.head? ts front found

theorem readAt_cons (p : Program) (place : Place) (t : Thread) (ts : List Thread) (front : Front)
    (found : Option Match) (waiting : p.waits t.pc = true) :
    (p.code[t.pc]? = some .accept ∧ p.readAt place (t :: ts) front found =
        (front, some ⟨⟨t.start, place.offset⟩, t.slots⟩)) ∨
      (∃ s pc offset before c rest, p.code[t.pc]? = some (.read s pc) ∧
        place = ⟨offset, before, c :: rest⟩ ∧ s.contains c = true ∧
        p.readAt place (t :: ts) front found =
          p.readAt place ts (p.enterAt ⟨offset + 1, some c, rest⟩ { t with pc } front) found) ∨
      ((∀ q, ¬ Accepts p.code t.pc place q) ∧
        p.readAt place (t :: ts) front found = p.readAt place ts front found) := by
  obtain ⟨offset, before, text⟩ := place
  unfold waits at waiting
  split at waiting
  · next s pc instr =>
    cases text with
    | nil =>
        refine .inr (.inr ⟨?_, ?_⟩)
        · rintro q ⟨n, leads⟩
          cases leads <;> simp_all
        · simp [readAt, readAll, instr]
    | cons c rest =>
        cases member : s.contains c with
        | true =>
            refine .inr (.inl ⟨s, pc, offset, before, c, rest, instr, rfl, member, ?_⟩)
            simp [readAt, readAll, instr, member]
            rfl
        | false =>
            refine .inr (.inr ⟨?_, ?_⟩)
            · rintro q ⟨n, leads⟩
              cases leads <;> simp_all
            · simp [readAt, readAll, instr, member]
  · next instr =>
    refine .inl ⟨instr, ?_⟩
    simp [readAt, readAll, instr]
  · cases waiting

/-- While the threads at a place read: those that have not yet, the best first, and what has come to
the next place. -/
structure Halfway (p : Program) (origin place next : Place) (ts : List Thread) (front : Front)
    (found : Option Match) : Prop where
  ready : p.Ready origin next front found
  rooted : ∀ t ∈ ts, p.Rooted origin place t
  waiting : ∀ t ∈ ts, p.waits t.pc = true
  sorted : ts.Pairwise (·.start ≤ ·.start)
  last : ∀ u ∈ front.threads.toList, ∀ t ∈ ts, u.start ≤ t.start
  left : ∀ m, found = some m → ∀ t ∈ ts, t.start ≤ m.span.start

theorem Ready.halfway (ready : p.Ready origin place front found)
    (empty : p.Ready origin next p.emptyFront found) :
    p.Halfway origin place next front.threads.toList p.emptyFront found :=
  ⟨empty, ready.rooted, ready.waiting, ready.sorted, by simp [emptyFront], ready.left⟩

def Follows (p : Program) (place next : Place) (ts : List Thread) (front : Front)
    (found : Option Match) (bound : Nat) (q : Place) : Prop :=
  p.Covers next front.threads.toList found bound q ∨ p.Covers place ts found bound q

theorem Halfway.tail (halfway : p.Halfway origin place next (t :: ts) front found) :
    p.Halfway origin place next ts front found where
  ready := halfway.ready
  rooted u later := halfway.rooted u (List.mem_cons_of_mem _ later)
  waiting u later := halfway.waiting u (List.mem_cons_of_mem _ later)
  sorted := (List.pairwise_cons.mp halfway.sorted).2
  last u member v later := halfway.last u member v (List.mem_cons_of_mem _ later)
  left m h u later := halfway.left m h u (List.mem_cons_of_mem _ later)

/-- The start of a match is the new bound, and the worse threads are given up. -/
theorem Halfway.accepts (halfway : p.Halfway origin place next (t :: ts) front found)
    (onward : place.offset ≤ next.offset) (instr : p.code[t.pc]? = some .accept) :
    p.Ready origin next front (some ⟨⟨t.start, place.offset⟩, t.slots⟩) ∧
      ∀ bound q, p.Follows place next (t :: ts) front found bound q →
        p.Covers next front.threads.toList (some ⟨⟨t.start, place.offset⟩, t.slots⟩) bound q := by
  obtain ⟨ready, rooted, -, sorted, last, left⟩ := halfway
  have rooted := rooted t List.mem_cons_self
  have bounds {bound : Nat} : (∃ m, found = some m ∧ m.span.start ≤ bound) → t.start ≤ bound := by
    rintro ⟨m, h, bounded⟩
    exact Nat.le_trans (left m h t List.mem_cons_self) bounded
  refine ⟨{ ready with left := ?_, early := ?_, finds := ?_ }, fun bound q follows => ?_⟩
  · rintro _ ⟨⟩ u member
    exact last u member t List.mem_cons_self
  · rintro _ ⟨⟩
    exact Nat.le_trans rooted.start_le onward
  · rintro _ ⟨⟩
    exact rooted.finds instr
  · rcases follows with (here | h) | (⟨u, member, bounded, -⟩ | h)
    · exact .inl here
    · exact .inr ⟨_, rfl, bounds h⟩
    · refine .inr ⟨_, rfl, ?_⟩
      rcases List.mem_cons.mp member with rfl | member
      · exact bounded
      · exact Nat.le_trans ((List.pairwise_cons.mp sorted).1 u member) bounded
    · exact .inr ⟨_, rfl, bounds h⟩

theorem Halfway.reads {offset pc : Nat} {before : Option Char} {c : Char} {rest : Text} {s : CharSet}
    (halfway : p.Halfway origin ⟨offset, before, c :: rest⟩ ⟨offset + 1, some c, rest⟩ (t :: ts)
      front found)
    (instr : p.code[t.pc]? = some (.read s pc)) (member : s.contains c = true) :
    p.Halfway origin ⟨offset, before, c :: rest⟩ ⟨offset + 1, some c, rest⟩ ts
        (p.enterAt ⟨offset + 1, some c, rest⟩ { t with pc } front) found ∧
      ∀ bound q,
        p.Follows ⟨offset, before, c :: rest⟩ ⟨offset + 1, some c, rest⟩ (t :: ts) front found
          bound q →
        p.Follows ⟨offset, before, c :: rest⟩ ⟨offset + 1, some c, rest⟩ ts
          (p.enterAt ⟨offset + 1, some c, rest⟩ { t with pc } front) found bound q := by
  obtain ⟨ready, rooted, -, sorted, last, left⟩ := id halfway
  obtain ⟨entered, starts, kept⟩ := ready.enterAt
    ((rooted t List.mem_cons_self).read instr member)
    (fun u member => last u member t List.mem_cons_self) (fun m h => left m h t List.mem_cons_self)
  refine ⟨{ halfway.tail with ready := entered, last := fun u member v later => ?_ },
    fun bound q follows => ?_⟩
  · rcases starts u member with old | start
    · exact last u old v (List.mem_cons_of_mem _ later)
    · exact start ▸ (List.pairwise_cons.mp sorted).1 v later
  · rcases follows with (⟨u, old, h⟩ | h) | (⟨u, here, bounded, accepts⟩ | h)
    · exact .inl (kept bound q (.inl ⟨u, List.mem_cons_of_mem _ old, h⟩))
    · exact .inl (.inr h)
    · rcases List.mem_cons.mp here with rfl | here
      · exact .inl (kept bound q (.inl ⟨_, List.mem_cons_self, bounded, accepts.of_read instr⟩))
      · exact .inr (.inl ⟨u, here, bounded, accepts⟩)
    · exact .inr (.inr h)

theorem Halfway.stops (halfway : p.Halfway origin place next (t :: ts) front found)
    (dead : ∀ q, ¬ Accepts p.code t.pc place q) :
    p.Halfway origin place next ts front found ∧
      ∀ bound q, p.Follows place next (t :: ts) front found bound q →
        p.Follows place next ts front found bound q := by
  refine ⟨halfway.tail, fun bound q follows => ?_⟩
  rcases follows with h | ⟨u, here, bounded, accepts⟩ | h
  · exact .inl h
  · rcases List.mem_cons.mp here with rfl | here
    · exact absurd accepts (dead q)
    · exact .inr (.inl ⟨u, here, bounded, accepts⟩)
  · exact .inr (.inr h)

/-- All threads at a place read, the best first: the paths that went through one of them, or through
the next place already, still do, and the match can only move to the left. -/
theorem Halfway.readAt (halfway : p.Halfway origin place next ts front found)
    (onward : place.offset ≤ next.offset)
    (behind : ∀ offset before c rest, place = ⟨offset, before, c :: rest⟩ →
      next = ⟨offset + 1, some c, rest⟩) :
    p.Ready origin next (p.readAt place ts front found).1 (p.readAt place ts front found).2 ∧
      ∀ bound q, p.Follows place next ts front found bound q →
        p.Covers next (p.readAt place ts front found).1.threads.toList
          (p.readAt place ts front found).2 bound q := by
  induction ts generalizing front found with
  | nil =>
      refine ⟨halfway.ready, fun bound q follows => ?_⟩
      rcases follows with here | ⟨t, none, -⟩ | h
      · exact here
      · cases none
      · exact .inr h
  | cons t ts ih =>
      rcases p.readAt_cons place t ts front found (halfway.waiting t List.mem_cons_self) with
        ⟨instr, same⟩ | ⟨s, pc, offset, before, c, rest, instr, rfl, member, same⟩ | ⟨dead, same⟩
      · rw [same]
        exact halfway.accepts onward instr
      · obtain rfl := behind _ _ _ _ rfl
        obtain ⟨after, follows⟩ := halfway.reads instr member
        obtain ⟨ready, covers⟩ := ih after
        rw [same]
        exact ⟨ready, fun bound q h => covers bound q (follows bound q h)⟩
      · obtain ⟨after, follows⟩ := halfway.stops dead
        obtain ⟨ready, covers⟩ := ih after
        rw [same]
        exact ⟨ready, fun bound q h => covers bound q (follows bound q h)⟩

theorem readAt_end (p : Program) (offset : Nat) (before : Option Char) (ts : List Thread)
    (front : Front) (found : Option Match) :
    (p.readAt ⟨offset, before, []⟩ ts front found).1 = front := by
  induction ts generalizing found with
  | nil => rfl
  | cons t ts ih =>
      simp only [readAt, List.head?_nil, List.tail_nil, readAll] at ih ⊢
      split
      · rfl
      · next none => cases none
      · exact ih found

def scanAt (p : Program) (place : Place) (front : Front) (found : Option Match) : Option Match :=
  p.scan place.offset place.before place.rest front found

def seeded (p : Program) (place : Place) (front : Front) (found : Option Match) : Front :=
  if found.isSome then front else p.enterAt place (p.fresh place) front

def round (p : Program) (place : Place) (front : Front) (found : Option Match) :
    Front × Option Match :=
  p.readAt place (p.seeded place front found).threads.toList p.emptyFront found

theorem scanAt_nil (p : Program) (offset : Nat) (before : Option Char) (front : Front)
    (found : Option Match) :
    p.scanAt ⟨offset, before, []⟩ front found = (p.round ⟨offset, before, []⟩ front found).2 := rfl

theorem scanAt_cons (p : Program) (offset : Nat) (before : Option Char) (c : Char) (rest : Text)
    (front : Front) (found : Option Match) :
    p.scanAt ⟨offset, before, c :: rest⟩ front found =
      let after := p.round ⟨offset, before, c :: rest⟩ front found
      if after.1.threads.isEmpty && after.2.isSome then after.2
      else p.scanAt ⟨offset + 1, some c, rest⟩ after.1 after.2 := rfl

theorem Ready.seeded (ready : p.Ready origin place front found) (ahead : origin.Ahead place) :
    p.Ready origin place (p.seeded place front found) found ∧
      ∀ root q, Accepts p.code p.start root q →
        root = place ∨ p.Covers place front.threads.toList found root.offset q →
        p.Covers place (p.seeded place front found).threads.toList found root.offset q := by
  unfold Program.seeded
  cases found with
  | some m =>
      refine ⟨ready, fun root q _ begins => ?_⟩
      rcases begins with rfl | covers
      · exact .inr ⟨m, rfl, ready.early m rfl⟩
      · exact covers
  | none =>
      obtain ⟨entered, -, kept⟩ := ready.enterAt (rooted_fresh ahead)
        (fun u member => (ready.rooted u member).start_le) (by simp)
      refine ⟨entered, fun root q accepts begins => kept _ _ ?_⟩
      rcases begins with rfl | ⟨u, member, h⟩ | ⟨m, none, -⟩
      · exact .inl ⟨p.fresh root, List.mem_cons_self, Nat.le_refl _, accepts⟩
      · exact .inl ⟨u, List.mem_cons_of_mem _ member, h⟩
      · cases none

def CoversFrom (p : Program) (origin place : Place) (front : Front) (found : Option Match) : Prop :=
  ∀ root q, origin.Ahead root → Accepts p.code p.start root q →
    place.Ahead root ∨ p.Covers place front.threads.toList found root.offset q

/-- A result is a match, and it is there and not right of any path if there is one. -/
structure IsLeftmost (p : Program) (origin : Place) (result : Option Match) : Prop where
  finds : ∀ m, result = some m → p.Finds origin m
  leftmost : ∀ root q, origin.Ahead root → Accepts p.code p.start root q →
    ∃ m, result = some m ∧ m.span.start ≤ root.offset

theorem Ready.finished (ready : p.Ready origin place front found)
    (covers : p.CoversFrom origin place front found) (none : front.threads = #[])
    (some : found.isSome = true) : p.IsLeftmost origin found := by
  refine ⟨ready.finds, fun root q begins accepts => ?_⟩
  obtain ⟨m, rfl⟩ := Option.isSome_iff_exists.mp some
  rcases covers root q begins accepts with later | ⟨t, member, -⟩ | h
  · exact ⟨m, rfl, Nat.le_trans (ready.early m rfl) later.offset_le⟩
  · simp [none] at member
  · exact h

theorem Ready.round {offset : Nat} {before : Option Char} {c : Char} {rest : Text}
    (ready : p.Ready origin ⟨offset, before, c :: rest⟩ front found)
    (ahead : origin.Ahead ⟨offset, before, c :: rest⟩)
    (covers : p.CoversFrom origin ⟨offset, before, c :: rest⟩ front found) :
    p.Ready origin ⟨offset + 1, some c, rest⟩ (p.round ⟨offset, before, c :: rest⟩ front found).1
        (p.round ⟨offset, before, c :: rest⟩ front found).2 ∧
      p.CoversFrom origin ⟨offset + 1, some c, rest⟩
        (p.round ⟨offset, before, c :: rest⟩ front found).1
        (p.round ⟨offset, before, c :: rest⟩ front found).2 := by
  obtain ⟨seeded, begun⟩ := ready.seeded ahead
  have empty : p.Ready origin ⟨offset + 1, some c, rest⟩ p.emptyFront found :=
    p.ready_emptyFront (fun m h => Nat.le_succ_of_le (ready.early m h)) ready.finds
  obtain ⟨done, covered⟩ := (seeded.halfway empty).readAt (Nat.le_succ offset) fun _ _ _ _ same => by
    cases same
    rfl
  refine ⟨done, fun root q begins accepts => ?_⟩
  rcases covers root q begins accepts with (_ | later) | h
  · exact .inr (covered _ _ (.inr (begun _ q accepts (.inl rfl))))
  · exact .inl later
  · exact .inr (covered _ _ (.inr (begun root q accepts (.inr h))))

theorem Ready.lastRound {offset : Nat} {before : Option Char}
    (ready : p.Ready origin ⟨offset, before, []⟩ front found)
    (ahead : origin.Ahead ⟨offset, before, []⟩)
    (covers : p.CoversFrom origin ⟨offset, before, []⟩ front found) :
    p.IsLeftmost origin (p.round ⟨offset, before, []⟩ front found).2 := by
  obtain ⟨seeded, begun⟩ := ready.seeded ahead
  obtain ⟨done, covered⟩ := (seeded.halfway (p.ready_emptyFront ready.early ready.finds)).readAt
    (Nat.le_refl offset) (by simp)
  refine ⟨done.finds, fun root q begins accepts => ?_⟩
  have here : root = ⟨offset, before, []⟩ ∨
      p.Covers ⟨offset, before, []⟩ front.threads.toList found root.offset q := by
    rcases covers root q begins accepts with here | h
    · cases here
      exact .inl rfl
    · exact .inr h
  rcases covered _ _ (.inr (begun root q accepts here)) with ⟨u, member, -⟩ | h
  · rw [readAt_end] at member
    cases member
  · exact h

/-- By induction on the text behind the place, one round at a time. -/
theorem scanAt_isLeftmost (ready : p.Ready origin place front found) (ahead : origin.Ahead place)
    (covers : p.CoversFrom origin place front found) :
    p.IsLeftmost origin (p.scanAt place front found) := by
  obtain ⟨offset, before, text⟩ := place
  induction text generalizing offset before front found with
  | nil =>
      rw [scanAt_nil]
      exact ready.lastRound ahead covers
  | cons c rest ih =>
      obtain ⟨next, later⟩ := ready.round ahead covers
      rw [scanAt_cons]
      dsimp only
      split
      · next ends =>
        rw [Bool.and_eq_true, Array.isEmpty_iff] at ends
        exact next.finished later ends.1 ends.2
      · exact ih _ _ next ahead.next later

/-- A search finds the match of a path that begins as far left as any, if there is a path. -/
theorem find_isLeftmost (p : Program) (place : Place) : p.IsLeftmost place (p.find place) := by
  refine scanAt_isLeftmost (p.ready_emptyFront (by simp) (by simp)) (.here place) ?_
  exact fun root q begins _ => .inl begins

end LineEditor.Regex.Program
