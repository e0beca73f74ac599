import LineEditor.Proofs.Regex.Paths

/-! What an expression matches, and that the program laid down for it accepts just that. -/
namespace LineEditor.Regex

def Rounds (R : Place → Place → Prop) : Nat → Place → Place → Prop
  | 0 => Eq
  | n + 1 => fun p q => ∃ mid, R p mid ∧ Rounds R n mid q

/-- An expression matches the text between two places. A greatest number of rounds that is below the
least counts for nothing. -/
def Expr.Matches : Expr → Place → Place → Prop
  | .empty => Eq
  | .set s _ => fun p q => ∃ c, p.rest = c :: q.rest ∧ s.contains c = true ∧ q = p.advance 1
  | .look l => fun p q => l.holds p.before p.rest.head? = true ∧ p = q
  | .seq a b => fun p q => ∃ mid, a.Matches p mid ∧ b.Matches mid q
  | .alt a b => fun p q => a.Matches p q ∨ b.Matches p q
  | .loop least most _ body => fun p q =>
      ∃ n, least ≤ n ∧ (∀ bound, most = some bound → n ≤ max least bound) ∧
        Rounds body.Matches n p q
  | .group _ body => body.Matches

variable {R S : Place → Place → Prop} {code whole : Code} {pc start again next a b c n m : Nat}
  {p q mid : Place} {greedy : Bool}

theorem Rounds.add (first : Rounds R n p mid) (second : Rounds R m mid q) : Rounds R (n + m) p q := by
  induction n generalizing p with
  | zero =>
      cases first
      rwa [Nat.zero_add]
  | succ n ih =>
      obtain ⟨next, one, rest⟩ := first
      rw [Nat.succ_add]
      exact ⟨next, one, ih rest⟩

theorem Rounds.cut (rounds : Rounds R (n + m) p q) :
    ∃ mid, Rounds R n p mid ∧ Rounds R m mid q := by
  induction n generalizing p with
  | zero => exact ⟨p, rfl, by rwa [Nat.zero_add] at rounds⟩
  | succ n ih =>
      rw [Nat.succ_add] at rounds
      obtain ⟨next, one, rest⟩ := rounds
      obtain ⟨mid, before, behind⟩ := ih rest
      exact ⟨mid, ⟨next, one, before⟩, behind⟩

/-- From `start` the code goes on at `next`, behind whatever the relation holds for. -/
structure Does (code : Code) (R : Place → Place → Prop) (start next : Nat) : Prop where
  sound : ∀ {n p q}, Leads code n start p q →
    ∃ mid m, m ≤ n ∧ R p mid ∧ Leads code m next mid q
  complete : ∀ {p mid q}, R p mid → Accepts code next mid q → Accepts code start p q

theorem Leads.of_split (found : code[pc]? = some (.split a b)) (leads : Leads code n pc p q) :
    ∃ m, m < n ∧ (Leads code m a p q ∨ Leads code m b p q) := by
  cases leads with
  | first here more =>
      cases found.symm.trans here
      exact ⟨_, Nat.lt_succ_self _, .inl more⟩
  | second here more =>
      cases found.symm.trans here
      exact ⟨_, Nat.lt_succ_self _, .inr more⟩
  | _ => simp_all

theorem Leads.of_choose (found : code[pc]? = some (Code.choose greedy a b))
    (leads : Leads code n pc p q) : ∃ m, m < n ∧ (Leads code m a p q ∨ Leads code m b p q) := by
  cases greedy with
  | true => exact leads.of_split found
  | false =>
      obtain ⟨m, fewer, more⟩ := leads.of_split found
      exact ⟨m, fewer, more.symm⟩

theorem Accepts.of_body (found : code[pc]? = some (Code.choose greedy a b))
    (more : Accepts code a p q) : Accepts code pc p q := by
  cases greedy
  · exact .second found more
  · exact .first found more

theorem Accepts.of_exit (found : code[pc]? = some (Code.choose greedy a b))
    (more : Accepts code b p q) : Accepts code pc p q := by
  cases greedy
  · exact .first found more
  · exact .second found more

namespace Does

theorem nothing (code : Code) (next : Nat) : Does code Eq next next where
  sound leads := ⟨_, _, Nat.le_refl _, rfl, leads⟩
  complete same accepts := same ▸ accepts

theorem read {s : CharSet} (found : code[pc]? = some (.read s next)) :
    Does code (Expr.set s).Matches pc next where
  sound leads := by
    cases leads with
    | read here member more =>
        cases found.symm.trans here
        exact ⟨_, _, Nat.le_succ _, ⟨_, rfl, member, rfl⟩, more⟩
    | _ => simp_all
  complete := by
    rintro ⟨offset, before, rest⟩ mid q ⟨c, text, member, further⟩ accepts
    obtain rfl : rest = c :: mid.rest := text
    rw [further] at accepts
    exact .read found member accepts

theorem look {l : Look} (found : code[pc]? = some (.look l next)) :
    Does code (Expr.look l).Matches pc next where
  sound leads := by
    cases leads with
    | look here holds more =>
        cases found.symm.trans here
        exact ⟨_, _, Nat.le_succ _, ⟨holds, rfl⟩, more⟩
    | _ => simp_all
  complete := by
    rintro p mid q ⟨holds, rfl⟩ accepts
    exact .look found holds accepts

theorem save {slot : Nat} (found : code[pc]? = some (.save slot next)) : Does code Eq pc next where
  sound leads := by
    cases leads with
    | save here more =>
        cases found.symm.trans here
        exact ⟨_, _, Nat.le_succ _, rfl, more⟩
    | _ => simp_all
  complete := by
    rintro p mid q rfl accepts
    exact .save found accepts

theorem congr (does : Does code R a b) (same : ∀ p q, R p q ↔ S p q) : Does code S a b where
  sound leads := by
    obtain ⟨mid, m, fewer, holds, more⟩ := does.sound leads
    exact ⟨mid, m, fewer, (same _ _).mp holds, more⟩
  complete holds accepts := does.complete ((same _ _).mpr holds) accepts

theorem comp (first : Does code R a b) (second : Does code S b c) :
    Does code (fun p q => ∃ mid, R p mid ∧ S mid q) a c where
  sound leads := by
    obtain ⟨mid, m, fewer, holds, more⟩ := first.sound leads
    obtain ⟨last, k, least, behind, rest⟩ := second.sound more
    exact ⟨last, k, Nat.le_trans least fewer, ⟨mid, holds, behind⟩, rest⟩
  complete holds accepts := by
    obtain ⟨mid, before, behind⟩ := holds
    exact first.complete before (second.complete behind accepts)

theorem choose (found : code[pc]? = some (Code.choose greedy a b)) (first : Does code R a c)
    (second : Does code S b c) : Does code (fun p q => R p q ∨ S p q) pc c where
  sound leads := by
    obtain ⟨m, fewer, left | right⟩ := leads.of_choose found
    · obtain ⟨mid, k, least, holds, more⟩ := first.sound left
      exact ⟨mid, k, by omega, .inl holds, more⟩
    · obtain ⟨mid, k, least, holds, more⟩ := second.sound right
      exact ⟨mid, k, by omega, .inr holds, more⟩
  complete holds accepts := by
    rcases holds with holds | holds
    · exact .of_body found (first.complete holds accepts)
    · exact .of_exit found (second.complete holds accepts)

/-- A body that comes back to the choice whether to enter it: by induction on the length of the
path, since each round takes a step of its own. -/
theorem rounds (found : code[again]? = some (Code.choose greedy start next))
    (body : Does code R start again) : Does code (fun p q => ∃ n, Rounds R n p q) again next where
  sound {n p q} leads := by
    induction n using Nat.strongRecOn generalizing p with
    | ind n ih =>
      obtain ⟨m, fewer, enter | leave⟩ := leads.of_choose found
      · obtain ⟨mid, k, least, holds, more⟩ := body.sound enter
        obtain ⟨last, j, rest, ⟨count, rounds⟩, out⟩ := ih k (by omega) more
        exact ⟨last, j, by omega, ⟨count + 1, mid, holds, rounds⟩, out⟩
      · exact ⟨p, m, Nat.le_of_lt fewer, ⟨0, rfl⟩, leave⟩
  complete {p mid q} holds accepts := by
    obtain ⟨count, rounds⟩ := holds
    induction count generalizing p with
    | zero =>
        cases rounds
        exact .of_exit found accepts
    | succ count ih =>
        obtain ⟨next, one, rest⟩ := rounds
        exact .of_body found (body.complete one (ih rest))

end Does

def Keeps (code more : Code) : Prop :=
  code.size ≤ more.size ∧ ∀ i, i < code.size → more[i]? = code[i]?

def Holds (whole laid : Code) (start : Nat) : Prop :=
  ∀ i, start ≤ i → i < laid.size → whole[i]? = laid[i]?

variable {laid more : Code}

theorem Keeps.refl (code : Code) : Keeps code code := ⟨Nat.le_refl _, fun _ _ => rfl⟩

theorem Keeps.trans (first : Keeps code laid) (second : Keeps laid more) : Keeps code more :=
  ⟨Nat.le_trans first.1 second.1, fun i inside =>
    (second.2 i (Nat.lt_of_lt_of_le inside first.1)).trans (first.2 i inside)⟩

theorem Keeps.push (code : Code) (i : Instr) : Keeps code (code.push i) := by
  refine ⟨by rw [Array.size_push]; omega, fun j inside => ?_⟩
  rw [Array.getElem?_push, if_neg (by omega)]

theorem Holds.before (holds : Holds whole more start) (keeps : Keeps laid more) :
    Holds whole laid start := fun i from_start inside =>
  (holds i from_start (Nat.lt_of_lt_of_le inside keeps.1)).trans (keeps.2 i inside)

theorem Holds.behind (holds : Holds whole laid start) (further : start ≤ next) :
    Holds whole laid next := fun i from_next inside =>
  holds i (Nat.le_trans further from_next) inside

theorem Holds.pushed {i : Instr} (holds : Holds whole (code.push i) start)
    (inside : start ≤ code.size) : whole[code.size]? = some i := by
  rw [holds code.size inside (by simp), Array.getElem?_push_size]

/-- What is laid down in front of `next` is behind the old code, and does what it should wherever it
ends up. -/
structure Lays (lay : Nat → Code → Laid) (R : Place → Place → Prop) : Prop where
  keeps : ∀ next code, Keeps code (lay next code).2
  does : ∀ next code whole, Holds whole (lay next code).2 code.size →
    Does whole R (lay next code).1 next

namespace Lays

variable {lay first second : Nat → Code → Laid}

theorem congr (lays : Lays lay R) (same : ∀ p q, R p q ↔ S p q) : Lays lay S where
  keeps := lays.keeps
  does next code whole holds := (lays.does next code whole holds).congr same

theorem nothing : Lays (fun next code => (next, code)) Eq where
  keeps _ code := .refl code
  does next _ whole _ := .nothing whole next

theorem emit (i : Nat → Instr)
    (does : ∀ {code : Code} {pc next}, code[pc]? = some (i next) → Does code R pc next) :
    Lays (fun next code => code.emit (i next)) R where
  keeps next code := .push code (i next)
  does _ _ _ holds := does (holds.pushed (Nat.le_refl _))

/-- The second part is laid down first, since the first goes on there. -/
theorem comp (before : Lays first R) (behind : Lays second S) :
    Lays (fun next code => first (second next code).1 (second next code).2)
      (fun p q => ∃ mid, R p mid ∧ S mid q) where
  keeps next code := (behind.keeps next code).trans (before.keeps _ _)
  does next code whole holds := by
    have keeps := before.keeps (second next code).1 (second next code).2
    exact (before.does _ _ whole (holds.behind (behind.keeps next code).1)).comp
      (behind.does next code whole (holds.before keeps))

theorem choose (greedy : Bool) (left : Lays first R) (right : Lays second S) :
    Lays (fun next code => (first next (second next code).2).2.emit
      (Code.choose greedy (first next (second next code).2).1 (second next code).1))
      (fun p q => R p q ∨ S p q) where
  keeps next code := ((right.keeps next code).trans (left.keeps next _)).trans (.push _ _)
  does next code whole holds := by
    have begun := right.keeps next code
    have grown := left.keeps next (second next code).2
    have both := holds.before (.push _ _)
    refine Does.choose (holds.pushed (begun.trans grown).1) ?_ ?_
    · exact left.does next _ whole (both.behind begun.1)
    · exact right.does next code whole (both.before grown)

theorem back (body : Lays lay R) (greedy : Bool) (next : Nat) (code : Code) :
    let again := lay code.size (code.push .fail)
    let laid := again.2.setIfInBounds code.size (Code.choose greedy again.1 next)
    Keeps code laid ∧ ∀ whole, Holds whole laid code.size →
      Does whole (fun p q => ∃ n, Rounds R n p q) code.size next ∧
        Does whole R again.1 code.size := by
  intro again laid
  have keeps : Keeps (code.push .fail) again.2 := body.keeps code.size (code.push .fail)
  have room : code.size < again.2.size := by
    have := keeps.1
    rw [Array.size_push] at this
    omega
  have size : laid.size = again.2.size := Array.size_setIfInBounds
  have other (i : Nat) (ne : code.size ≠ i) : laid[i]? = again.2[i]? :=
    Array.getElem?_setIfInBounds_ne ne
  refine ⟨⟨by omega, fun i inside => ?_⟩, fun whole holds => ?_⟩
  · have held := keeps.2 i (by rw [Array.size_push]; omega)
    rw [other i (by omega), held, (Keeps.push code .fail).2 i inside]
  · have does : Does whole R again.1 code.size := by
      refine body.does code.size (code.push .fail) whole fun i behind inside => ?_
      rw [Array.size_push] at behind
      rw [holds i (by omega) (size ▸ inside), other i (by omega)]
    have found : whole[code.size]? = some (Code.choose greedy again.1 next) := by
      rw [holds code.size (Nat.le_refl _) (size ▸ room)]
      exact Array.getElem?_setIfInBounds_self_of_lt room
    exact ⟨.rounds found does, does⟩

theorem atLeastOnce (greedy : Bool) (body : Lays lay R) :
    Lays (Code.atLeastOnce greedy lay) (fun p q => ∃ n, Rounds R (n + 1) p q) where
  keeps next code := (body.back greedy next code).1
  does next code whole holds := by
    obtain ⟨rounds, once⟩ := (body.back greedy next code).2 whole holds
    refine (once.comp rounds).congr fun p q => ⟨?_, ?_⟩
    · rintro ⟨mid, one, n, rest⟩
      exact ⟨n, mid, one, rest⟩
    · rintro ⟨n, mid, one, rest⟩
      exact ⟨mid, one, n, rest⟩

theorem anyNumber (greedy nullable : Bool) (body : Lays lay R) :
    Lays (Code.anyNumber greedy nullable lay) (fun p q => ∃ n, Rounds R n p q) := by
  cases nullable with
  | false =>
      exact {
        keeps := fun next code => (body.back greedy next code).1
        does := fun next code whole holds => ((body.back greedy next code).2 whole holds).1 }
  | true =>
      refine ((body.atLeastOnce greedy).choose greedy .nothing).congr fun p q => ⟨?_, ?_⟩
      · rintro (⟨n, rounds⟩ | same)
        · exact ⟨n + 1, rounds⟩
        · exact ⟨0, same⟩
      · rintro ⟨n, rounds⟩
        cases n with
        | zero => exact .inr rounds
        | succ n => exact .inl ⟨n, rounds⟩

theorem exactly (body : Lays lay R) (n : Nat) : Lays (Code.exactly lay n) (Rounds R n) := by
  induction n with
  | zero => exact .nothing
  | succ n ih => exact body.comp ih

theorem atMost (greedy : Bool) (body : Lays lay R) (n : Nat) :
    Lays (fun next code => Code.atMost greedy lay next n code)
      (fun p q => ∃ k, k ≤ n ∧ Rounds R k p q) := by
  induction n with
  | zero =>
      refine Lays.nothing.congr fun p q => ⟨fun same => ⟨0, Nat.le_refl _, same⟩, ?_⟩
      rintro ⟨k, none, rounds⟩
      cases Nat.le_zero.mp none
      exact rounds
  | succ n ih =>
      refine ((body.comp ih).choose greedy .nothing).congr fun p q => ⟨?_, ?_⟩
      · rintro (⟨mid, one, k, most, rest⟩ | same)
        · exact ⟨k + 1, Nat.succ_le_succ most, mid, one, rest⟩
        · exact ⟨0, Nat.zero_le _, same⟩
      · rintro ⟨k, most, rounds⟩
        cases k with
        | zero => exact .inr rounds
        | succ k =>
            obtain ⟨mid, one, rest⟩ := rounds
            exact .inl ⟨mid, one, k, Nat.le_of_succ_le_succ most, rest⟩

end Lays

theorem Expr.lays_unbounded {body : Expr} (ih : Lays body.lay body.Matches) (least : Nat)
    (greedy : Bool) : Lays (Expr.loop least none greedy body).lay
      (Expr.loop least none greedy body).Matches := by
  cases least with
  | zero => exact (ih.anyNumber greedy body.nullable).congr fun p q => by simp [Expr.Matches]
  | succ n =>
      refine ((ih.exactly n).comp (ih.atLeastOnce greedy)).congr fun p q => ⟨?_, ?_⟩
      · rintro ⟨mid, before, k, behind⟩
        exact ⟨n + (k + 1), by omega, by simp, before.add behind⟩
      · rintro ⟨k, enough, -, rounds⟩
        obtain ⟨more, rfl⟩ : ∃ more, k = n + (more + 1) := ⟨k - n - 1, by omega⟩
        obtain ⟨mid, before, behind⟩ := rounds.cut
        exact ⟨mid, before, more, behind⟩

theorem Expr.lays_bounded {body : Expr} (ih : Lays body.lay body.Matches) (least most : Nat)
    (greedy : Bool) : Lays (Expr.loop least (some most) greedy body).lay
      (Expr.loop least (some most) greedy body).Matches := by
  refine ((ih.exactly least).comp (ih.atMost greedy (most - least))).congr fun p q => ⟨?_, ?_⟩
  · rintro ⟨mid, before, k, few, behind⟩
    refine ⟨least + k, by omega, ?_, before.add behind⟩
    rintro _ ⟨⟩
    omega
  · rintro ⟨k, enough, few, rounds⟩
    have bound := few most rfl
    obtain ⟨more, rfl⟩ : ∃ more, k = least + more := ⟨k - least, by omega⟩
    obtain ⟨mid, before, behind⟩ := rounds.cut
    exact ⟨mid, before, more, by omega, behind⟩

theorem Expr.lays_group {body : Expr} (ih : Lays body.lay body.Matches) (index : Nat) :
    Lays (Expr.group index body).lay (Expr.group index body).Matches := by
  have opened := Lays.emit (.save (2 * index - 2)) .save
  have closed := Lays.emit (.save (2 * index - 1)) .save
  exact (opened.comp (ih.comp closed)).congr fun p q => by simp [Expr.Matches]

theorem Expr.lays (e : Expr) : Lays e.lay e.Matches := by
  induction e with
  | empty => exact .nothing
  | set s _ => exact .emit (.read s) .read
  | look l => exact .emit (.look l) .look
  | seq a b first second => exact first.comp second
  | alt a b first second => exact first.choose true second
  | loop least most greedy body ih =>
      cases most with
      | none => exact Expr.lays_unbounded ih least greedy
      | some most => exact Expr.lays_bounded ih least most greedy
  | group index body ih => exact Expr.lays_group ih index

/-- The program of an expression accepts what the expression matches. -/
theorem Program.accepts_ofExpr (e : Expr) (groups : Nat) (p q : Place) :
    Accepts (ofExpr e groups).code (ofExpr e groups).start p q ↔ e.Matches p q := by
  have lays := e.lays
  have first : (#[Instr.accept] : Code)[0]? = some .accept := rfl
  have found : (ofExpr e groups).code[0]? = some .accept :=
    ((lays.keeps 0 #[.accept]).2 0 (Nat.zero_lt_one)).trans first
  have does : Does (ofExpr e groups).code e.Matches (ofExpr e groups).start 0 :=
    lays.does 0 #[.accept] _ fun i _ _ => rfl
  refine ⟨fun accepts => ?_, fun holds => does.complete holds (.accept q found)⟩
  obtain ⟨n, leads⟩ := accepts
  obtain ⟨mid, m, -, holds, more⟩ := does.sound leads
  cases more with
  | accept => exact holds
  | _ => simp_all

end LineEditor.Regex
