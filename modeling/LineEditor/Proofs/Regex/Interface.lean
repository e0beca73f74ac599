import LineEditor.Regex.Template

/-! What an editor relies on in an engine for regular expressions, as engines are documented:
patterns that are words, the leftmost match, all matches one after the other, and templates. -/
namespace LineEditor.Regex

variable {search : Place → Option Match} {place : Place} {last : Option Nat} {m : Match}
  {ms : List Match}

/-- The next match that counts, where the last one ended at `last`. An empty match right there does
not, and the search goes on one character further. -/
def following (search : Place → Option Match) (place : Place) (last : Option Nat) : Option Match :=
  match search place with
  | none => none
  | some m =>
      if m.span.start = m.span.stop ∧ last = some m.span.stop then
        if place.rest = [] then none else search (place.advance 1)
      else some m

/-- All matches that count, each looked for where the one in front of it ended. -/
inductive Iterates (search : Place → Option Match) : Place → Option Nat → List Match → Prop where
  | finished {place : Place} {last : Option Nat} (none : following search place last = none) :
      Iterates search place last []
  | next {place : Place} {last : Option Nat} {m : Match} {ms : List Match}
      (found : following search place last = some m)
      (more : Iterates search (place.advance (m.span.stop - place.offset)) (some m.span.stop) ms) :
      Iterates search place last (m :: ms)

theorem following_none (search : Place → Option Match) (place : Place) :
    following search place none = search place := by
  unfold following
  split
  · next missed => exact missed.symm
  · next found =>
    rw [if_neg (by simp)]
    exact found.symm

theorem Iterates.take_one (iterates : Iterates search place none ms) :
    ms.take 1 = (search place).toList := by
  rw [← following_none search place]
  cases iterates with
  | finished none =>
      rw [none]
      rfl
  | next found =>
      rw [found]
      rfl

theorem Iterates.unique {ms' : List Match} (iterates : Iterates search place last ms)
    (again : Iterates search place last ms') : ms' = ms := by
  induction iterates generalizing ms' with
  | finished none =>
      cases again with
      | finished => rfl
      | next found => cases none.symm.trans found
  | next found _ ih =>
      cases again with
      | finished none => cases none.symm.trans found
      | next found' more =>
          cases found.symm.trans found'
          rw [ih more]

/-- The matches that a replacement is for: all of them, or the first alone. -/
def Selects (r : Regex) (all : Bool) (t : Text) (ms : List Match) : Prop :=
  ∃ every, Iterates r.program.find (.start t) none every ∧ ms = if all then every else every.take 1

/-- Each match has given its place to a new text, and what stands outside the matches is the same.
`offset` is where the text begins. -/
inductive Rewritten (new : Match → Text) : Nat → Text → List Match → Text → Prop where
  | rest (offset : Nat) (t : Text) : Rewritten new offset t [] t
  | replaced {offset : Nat} {gap whole t result : Text} {m : Match} {ms : List Match}
      (start : m.span.start = offset + gap.length)
      (stop : m.span.stop = m.span.start + whole.length)
      (more : Rewritten new m.span.stop t ms result) :
      Rewritten new offset (gap ++ whole ++ t) (m :: ms) (gap ++ new m ++ result)

theorem Span.of_append {s : Span} {gap whole rest : Text} (start : s.start = gap.length)
    (stop : s.stop = s.start + whole.length) : s.of (gap ++ whole ++ rest) = whole := by
  have length : s.stop - s.start = whole.length := by omega
  rw [Span.of, length, start, List.append_assoc, List.drop_left, List.take_left]

theorem Rewritten.unchanged (passed : Text) {t rest result : Text}
    (rewritten : Rewritten (·.span.of t) passed.length rest ms result)
    (text : t = passed ++ rest) : result = rest := by
  generalize place : passed.length = offset at rewritten
  induction rewritten generalizing passed with
  | rest => rfl
  | @replaced offset gap whole rest result m ms start stop _ ih =>
      have before : t = passed ++ gap ++ whole ++ rest := by
        rw [text]
        simp only [List.append_assoc]
      have here : m.span.start = (passed ++ gap).length := by
        rw [List.length_append, start, place]
      have own : m.span.of t = whole := before ▸ Span.of_append here stop
      rw [own, ih (passed ++ gap ++ whole) before (by rw [List.length_append, stop, here])]

theorem Rewritten.mem {new : Match → Text} {offset : Nat} {t result : Text} {c : Char}
    (rewritten : Rewritten new offset t ms result) (member : c ∈ result) :
    c ∈ t ∨ ∃ m, c ∈ new m := by
  induction rewritten with
  | rest => exact .inl member
  | @replaced offset gap whole t result m ms _ _ _ ih =>
      rcases List.mem_append.mp member with front | behind
      · rcases List.mem_append.mp front with old | brought
        · exact .inl (List.mem_append_left _ (List.mem_append_left _ old))
        · exact .inr ⟨m, brought⟩
      · exact (ih behind).imp_left (List.mem_append_right _)

def isOperator (c : Char) : Bool :=
  ['\\', '.', '+', '*', '?', '(', ')', '|', '[', '\x7b', '^', '$'].contains c

structure IsFirstAt (w t gap rest : Text) : Prop where
  text : t = gap ++ w ++ rest
  first : ∀ before behind, t = before ++ w ++ behind → gap.length ≤ before.length

/-- A search finds the first occurrence of a word, and there are no groups. -/
def FindsWord (search : Place → Option Match) (w : Text) : Prop :=
  ∀ t, search (.start t) = none ∧ ¬ w <:+: t ∨
    ∃ m gap rest, search (.start t) = some m ∧ IsFirstAt w t gap rest ∧
      m.span = ⟨gap.length, gap.length + w.length⟩ ∧ ∀ n, groupText t m (n + 1) = []

theorem FindsWord.isSome_iff {w : Text} (finds : FindsWord search w) (t : Text) :
    (search (.start t)).isSome = true ↔ w <:+: t := by
  rcases finds t with ⟨missed, absent⟩ | ⟨m, gap, rest, found, first, -⟩
  · exact iff_of_false (by simp [missed]) absent
  · exact iff_of_true (by simp [found]) ⟨gap, rest, first.text.symm⟩

structure Engine (R : Type) where
  compile : Bool → Text → Except Refusal R
  source : R → Text
  ignoreCase : R → Bool
  search : R → Place → Option Match
  expand : R → Text → Match → Text → Text
  replace : R → Bool → Text → Text → Option Text
  /-- Words up to this length in bytes are no pattern that is too large. -/
  longestWord : Nat

/-- The documented properties of an engine that results about an editor use. -/
structure Engine.Lawful {R : Type} (E : Engine R) : Prop where
  compile_keeps : ∀ {ignoreCase source r}, E.compile ignoreCase source = .ok r →
    E.source r = source ∧ E.ignoreCase r = ignoreCase
  compile_word : ∀ {w : Text}, (∀ c ∈ w, isOperator c = false) →
    (w.byteLength ≤ E.longestWord →
      ∃ r, E.compile false w = .ok r ∧ FindsWord (E.search r) w) ∧
    (¬ w.byteLength ≤ E.longestWord → ∃ refusal, E.compile false w = .error refusal)
  /-- A question mark lets the character in front of it be absent. -/
  compile_optional : ∀ {u v : Text} {c : Char}, (∀ c ∈ u, isOperator c = false) →
    isOperator c = false → (∀ c ∈ v, isOperator c = false) →
    (Text.byteLength (u ++ c :: v) + 2 ≤ E.longestWord →
      ∃ r, E.compile false (u ++ c :: '?' :: v) = .ok r ∧ ∀ t,
        (E.search r (.start t)).isSome = true ↔ u ++ c :: v <:+: t ∨ u ++ v <:+: t) ∧
    (¬ Text.byteLength (u ++ c :: v) + 2 ≤ E.longestWord →
      ∃ refusal, E.compile false (u ++ c :: '?' :: v) = .error refusal)
  compile_question : ∀ v, ∃ refusal, E.compile false ('?' :: v) = .error refusal
  compile_operator : ∀ {c r}, isOperator c = true → E.compile false ['a', c, 'b'] = .ok r →
    ∃ t, ¬ ((E.search r (.start t)).isSome = true ↔ ['a', c, 'b'] <:+: t)
  replace_rewrites : ∀ r all template t, ∃ every, Iterates (E.search r) (.start t) none every ∧
    Rewritten (E.expand r t · template) 0 t (if all then every else every.take 1)
      ((E.replace r all template t).getD t)
  expand_nil : ∀ r t m, E.expand r t m [] = []
  expand_char : ∀ {c}, c ≠ '$' → ∀ r t m rest, E.expand r t m (c :: rest) = c :: E.expand r t m rest
  expand_dollar : ∀ r t m rest, E.expand r t m ('$' :: '$' :: rest) = '$' :: E.expand r t m rest
  expand_group : ∀ {d : Char}, d.isDigit = true → ∀ r t m rest,
    E.expand r t m ('$' :: '\x7b' :: d :: '\x7d' :: rest) =
      groupText t m (d.toNat - '0'.toNat) ++ E.expand r t m rest
  expand_subset : ∀ r t m template, E.expand r t m template ⊆ t ++ template

theorem Engine.Lawful.replace_missed {R : Type} {E : Engine R} (lawful : E.Lawful) {r : R}
    {t : Text} (missed : E.search r (.start t) = none) (all : Bool) (template : Text) :
    (E.replace r all template t).getD t = t := by
  obtain ⟨every, iterates, rewritten⟩ := lawful.replace_rewrites r all template t
  obtain rfl : every = [] := Iterates.unique (.finished ((following_none _ _).trans missed)) iterates
  rw [List.take_nil, ite_self] at rewritten
  generalize (E.replace r all template t).getD t = result at rewritten
  cases rewritten
  rfl

theorem Engine.Lawful.replace_first {R : Type} {E : Engine R} (lawful : E.Lawful) {r : R} {t : Text}
    (found : E.search r (.start t) = some m) (template : Text) :
    ∃ gap whole rest, t = gap ++ whole ++ rest ∧
      m.span = ⟨gap.length, gap.length + whole.length⟩ ∧
      (E.replace r false template t).getD t = gap ++ E.expand r t m template ++ rest := by
  obtain ⟨every, iterates, rewritten⟩ := lawful.replace_rewrites r false template t
  rw [if_neg (by simp), iterates.take_one, found, Option.toList_some] at rewritten
  generalize same : (E.replace r false template t).getD t = result at rewritten
  cases rewritten with
  | @replaced _ gap whole rest _ _ _ start stop more =>
      cases more
      rw [Nat.zero_add] at start
      refine ⟨gap, whole, rest, rfl, ?_, rfl⟩
      rw [← start, ← stop]

end LineEditor.Regex
