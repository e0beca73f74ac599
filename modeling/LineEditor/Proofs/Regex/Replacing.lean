import LineEditor.Proofs.Regex.Finding
import LineEditor.Proofs.Regex.Interface

/-! All matches of a text, one after the other, and the text that replacing them gives. -/
namespace LineEditor.Regex

variable {p : Program} {place : Place} {last : Option Nat} {m : Match} {ms : List Match}

/-- A match divides the text behind a place: what stands in front of it, its own text, and the rest.
-/
structure Match.Divides (m : Match) (place : Place) (gap whole rest : Text) : Prop where
  text : place.rest = gap ++ whole ++ rest
  start : m.span.start = place.offset + gap.length
  stop : m.span.stop = m.span.start + whole.length

theorem Match.Divides.behind {gap whole rest : Text} (divides : m.Divides place gap whole rest) :
    (place.advance (m.span.stop - place.offset)).rest = rest ∧
      (place.advance (m.span.stop - place.offset)).offset = m.span.stop := by
  obtain ⟨-, after, offset⟩ := Place.advance_text divides.text
  have start := divides.start
  have stop := divides.stop
  have length : m.span.stop - place.offset = (gap ++ whole).length := by
    rw [List.length_append]
    omega
  rw [length]
  refine ⟨after, offset.trans ?_⟩
  rw [List.length_append]
  omega

theorem Program.find_divides (found : p.find place = some m) :
    ∃ gap whole rest, m.Divides place gap whole rest := by
  obtain ⟨-, root, stop, before, start, last, accepts⟩ := (p.find_isLeftmost place).finds m found
  obtain ⟨gap, text, begins⟩ := before.text
  obtain ⟨whole, more, ends⟩ := accepts.ahead.text
  refine ⟨gap, whole, stop.rest, ?_, by omega, by omega⟩
  rw [text, more, List.append_assoc]

theorem advance_one {place : Place} (more : place.rest ≠ []) :
    ∃ c, place.rest = c :: (place.advance 1).rest ∧
      (place.advance 1).offset = place.offset + 1 ∧
      ∀ n, place.advance (n + 1) = (place.advance 1).advance n := by
  obtain ⟨offset, before, rest⟩ := place
  cases rest with
  | nil => exact absurd rfl more
  | cons c rest => exact ⟨c, rfl, rfl, fun _ => rfl⟩

theorem find_of_following (h : following p.find place last = some m) :
    p.find place = some m ∨ place.rest ≠ [] ∧ p.find (place.advance 1) = some m := by
  unfold following at h
  split at h
  · cases h
  · next found =>
    split at h
    · split at h
      · cases h
      · next more => exact .inr ⟨more, h⟩
    · exact .inl (found.trans h)

theorem following_divides (h : following p.find place last = some m) :
    ∃ gap whole rest, m.Divides place gap whole rest := by
  rcases find_of_following h with found | ⟨more, found⟩
  · exact Program.find_divides found
  · obtain ⟨gap, whole, rest, text, start, stop⟩ := Program.find_divides found
    obtain ⟨c, first, offset, -⟩ := advance_one more
    refine ⟨c :: gap, whole, rest, ?_, ?_, stop⟩
    · rw [first, text]
      rfl
    · rw [start, List.length_cons]
      omega

/-- Where an empty match is passed over, the same matches follow as one character further on. -/
theorem Iterates.passed (found : p.find place = some m)
    (empty : m.span.start = m.span.stop ∧ last = some m.span.stop) (more : place.rest ≠ [])
    (here : last = some place.offset) (iterates : Iterates p.find (place.advance 1) last ms) :
    Iterates p.find place last ms := by
  obtain ⟨c, first, offset, further⟩ := advance_one more
  have same : following p.find place last = p.find (place.advance 1) := by
    simp [following, found, empty, more]
  have fresh : following p.find (place.advance 1) last = p.find (place.advance 1) := by
    unfold following
    split
    · next none => exact none.symm
    · next m found =>
      obtain ⟨gap, whole, -, -, start, stop⟩ := Program.find_divides found
      rw [if_neg, found]
      rintro ⟨-, h⟩
      rw [here, Option.some.injEq] at h
      omega
  cases iterates with
  | finished none => exact .finished (same.trans (fresh.symm.trans none))
  | @next _ _ m ms next after =>
      refine .next (same.trans (fresh.symm.trans next)) ?_
      obtain ⟨gap, whole, -, -, start, stop⟩ := Program.find_divides (fresh.symm.trans next)
      have count : m.span.stop - place.offset = m.span.stop - (place.advance 1).offset + 1 := by
        omega
      rw [count, further]
      exact after

/-- The fuel counts two rounds for every character: one for a match that is empty, and one to pass
it over. -/
theorem findAll_iterates (fuel : Nat) (place : Place) (last : Option Nat)
    (behind : ∀ stop, last = some stop → stop ≤ place.offset)
    (enough : 2 * place.rest.length + (if last = some place.offset then 0 else 1) < fuel) :
    Iterates p.find place last (p.findAll fuel place last) := by
  induction fuel generalizing place last with
  | zero => exact absurd enough (Nat.not_lt_zero _)
  | succ fuel ih =>
      unfold Program.findAll
      split
      · next none => exact .finished (by simp [following, none])
      · next m found =>
        obtain ⟨gap, whole, rest, divides⟩ := Program.find_divides found
        obtain ⟨text, start, stop⟩ := id divides
        obtain ⟨after, offset⟩ := divides.behind
        have length : place.rest.length = gap.length + whole.length + rest.length := by
          rw [text, List.length_append, List.length_append]
        split
        · next empty =>
          have here : last = some place.offset := by
            have := behind _ empty.2
            rw [empty.2, Option.some.injEq]
            omega
          split
          · next none => exact .finished (by simp [following, found, empty, none])
          · next more =>
            obtain ⟨c, first, onward, -⟩ := advance_one more
            refine .passed found empty more here (ih _ _ ?_ ?_)
            · intro stop h
              have := behind stop h
              omega
            · rw [if_pos here, first, List.length_cons] at enough
              split <;> omega
        · next counts =>
          refine .next (by simp [following, found, counts]) (ih _ _ ?_ ?_)
          · rintro _ ⟨⟩
            exact Nat.le_of_eq offset.symm
          · rw [offset, if_pos rfl, after]
            by_cases here : last = some place.offset
            · have moved : 0 < gap.length + whole.length := by
                refine Nat.pos_of_ne_zero fun none => counts ⟨by omega, ?_⟩
                rw [here, Option.some.injEq]
                omega
              rw [if_pos here] at enough
              omega
            · rw [if_neg here] at enough
              omega

theorem selected_selects (r : Regex) (all : Bool) (t : Text) :
    r.Selects all t (r.selected all t) := by
  have every : Iterates r.program.find (.start t) none (r.findAll t) := by
    refine findAll_iterates _ _ _ (by simp) ?_
    rw [if_neg (by simp)]
    exact Nat.lt_succ_of_le (Nat.le_succ _)
  refine ⟨_, every, ?_⟩
  rw [every.take_one]
  rfl

theorem selects_iff {r : Regex} {all : Bool} {t : Text} :
    r.Selects all t ms ↔ ms = r.selected all t := by
  constructor
  · rintro ⟨every, iterates, rfl⟩
    obtain ⟨every', iterates', same⟩ := r.selected_selects all t
    rw [same, iterates.unique iterates']
  · rintro rfl
    exact r.selected_selects all t

theorem splice_cons {new : Match → Text} {gap whole rest : Text} {offset : Nat}
    (start : m.span.start = offset + gap.length) (stop : m.span.stop = m.span.start + whole.length) :
    splice new offset (gap ++ whole ++ rest) (m :: ms) =
      gap ++ new m ++ splice new m.span.stop rest ms := by
  have first : m.span.start - offset = gap.length := by omega
  have length : m.span.stop - offset = (gap ++ whole).length := by
    rw [List.length_append]
    omega
  rw [splice, first, length, List.drop_left, List.append_assoc gap whole, List.take_left]

theorem Iterates.rewritten (iterates : Iterates p.find place last ms) (new : Match → Text) :
    Rewritten new place.offset place.rest ms (splice new place.offset place.rest ms) := by
  induction iterates with
  | finished => exact .rest _ _
  | next found _ ih =>
      obtain ⟨gap, whole, rest, divides⟩ := following_divides found
      obtain ⟨after, offset⟩ := divides.behind
      rw [offset, after] at ih
      rw [divides.text, splice_cons divides.start divides.stop]
      exact .replaced divides.start divides.stop ih

theorem Rewritten.take_one {new : Match → Text} {offset : Nat} {t result : Text}
    (rewritten : Rewritten new offset t ms result) :
    Rewritten new offset t (ms.take 1) (splice new offset t (ms.take 1)) := by
  cases rewritten with
  | rest => exact .rest offset t
  | replaced start stop =>
      rw [List.take_succ_cons, List.take_zero, splice_cons start stop]
      exact .replaced start stop (.rest _ _)

theorem Selects.rewritten {r : Regex} {all : Bool} {t : Text} (selects : r.Selects all t ms)
    (new : Match → Text) : Rewritten new 0 t ms (splice new 0 t ms) := by
  obtain ⟨every, iterates, rfl⟩ := selects
  have rewritten : Rewritten new 0 t every (splice new 0 t every) := iterates.rewritten new
  cases all with
  | true => exact rewritten
  | false => exact rewritten.take_one

theorem replace_getD (r : Regex) (all : Bool) (template t : Text) :
    (r.replace all template t).getD t =
      splice (fun m => r.expand t m (templateParts template)) 0 t (r.selected all t) := by
  unfold replace
  cases r.selected all t <;> rfl

end LineEditor.Regex
