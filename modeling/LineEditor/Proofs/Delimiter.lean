import LineEditor.Address.Resolution
import LineEditor.Proofs.Failure
import LineEditor.Proofs.Search
import LineEditor.Proofs.Address.Notation
import LineEditor.Proofs.Address.Range
import LineEditor.Proofs.Substitution.Delimiter

/-! In a pattern a delimiter with a backslash in front ends nothing, but it has lost the backslash
when the pattern is read. So it means what it means bare: itself, unless it is an operator. -/
namespace LineEditor

def patternAddress (d : Direction) (written : Text) : Text :=
  d.delimiter :: written ++ [d.delimiter]

section

variable {d : Direction} {source written : Text} {b : Buffer} {current addr : Nat}
  {last : Option Regex} {r : Regex} {refusal : Regex.Refusal}

theorem read_patternAddress (escaped : Escaped d.delimiter source written) :
    Addresses.read (patternAddress d written) =
      (.chain ⟨⟨some (.pattern d source), []⟩, [], false⟩, []) := by
  have blank : Text.Blank [] := by decide
  have chain : Chain.Written ⟨⟨some (.pattern d source), []⟩, [], false⟩ _ :=
    .mk blank (.based (.pattern d escaped) blank .nil) .nil
  have read := Addresses.read_written chain (v := []) (by decide)
  simpa [patternAddress] using read

theorem resolve_refused (escaped : Escaped d.delimiter source written) (given : source ≠ [])
    (refused : Regex.compile false source = .error refusal) :
    resolve (patternAddress d written) b current last = .error .invalidPattern := by
  have adopted : Progress.adopt ⟨current, none⟩ source = .error .invalidPattern := by
    simp [Progress.adopt, given, refused]
  refine resolve_lone_refused (read_patternAddress escaped) ?_
  simp only [Component.value, Base.value, adopted, error_bind]

theorem component_searches (given : source ≠ []) (compiled : Regex.compile false source = .ok r) :
    Component.value b last ⟨current, none⟩ ⟨some (.pattern d source), []⟩ =
      b.search current d r.isMatch >>= fun addr =>
        signed addr >>= fun _ => .ok (some addr, ⟨current, some r⟩) := by
  have adopted : Progress.adopt ⟨current, none⟩ source = .ok ⟨current, some r⟩ := by
    simp [Progress.adopt, given, compiled]
  simp only [Component.value, Base.value, adopted, ok_bind, Option.some_or, bind_assoc]
  refine bind_congr fun addr => ?_
  unfold signed
  split <;> rfl

theorem resolve_missed (escaped : Escaped d.delimiter source written) (given : source ≠ [])
    (compiled : Regex.compile false source = .ok r)
    (missed : b.search current d r.isMatch = .error .noMatch) :
    resolve (patternAddress d written) b current last = .error .noMatch := by
  refine resolve_lone_refused (read_patternAddress escaped) ?_
  rw [component_searches given compiled, missed, error_bind]

theorem resolve_found (escaped : Escaped d.delimiter source written) (given : source ≠ [])
    (compiled : Regex.compile false source = .ok r)
    (found : b.search current d r.isMatch = .ok addr) (inside : 1 ≤ addr ∧ addr ≤ b.lineCount) :
    resolve (patternAddress d written) b current last =
      if (addr : Int) < sumLimit then .ok ⟨addr, addr, ['p'], current, some r⟩
      else .error .invalidAddress := by
  have low : -sumLimit ≤ (addr : Int) := by rw [sumLimit]; omega
  have read : Addresses.read (patternAddress d written) = _ := read_patternAddress escaped
  have value := @component_searches d source b current last r given compiled
  rw [found, ok_bind] at value
  by_cases word : (addr : Int) < sumLimit
  · have line : b.HasLine addr := by
      rw [Buffer.hasLine_iff, Buffer.holds_iff]
      omega
    rw [signed, if_pos ⟨low, word⟩, ok_bind] at value
    rw [resolve_lone_address read value, if_pos line, if_pos word]
    rfl
  · rw [signed, if_neg fun both => word both.2, error_bind] at value
    rw [resolve_lone_refused read value, if_neg word]

end

open Substitution (Letters expansion splitFields toTemplate)
open Regex (isOperator longestWord engine_lawful)

variable {d : Direction} {u v w : Text} {c delimiter : Char} {r : Regex}

theorem isOperator_of_isAlpha (letter : c.isAlpha = true) : isOperator c = false := by
  cases operator : isOperator c with
  | false => rfl
  | true =>
      simp only [isOperator, List.contains_eq_mem, decide_eq_true_eq, List.mem_cons,
        List.not_mem_nil, or_false] at operator
      rcases operator with rfl | rfl | rfl | rfl | rfl | rfl | rfl | rfl | rfl | rfl | rfl | rfl <;>
        exact absurd letter (by decide)

theorem Substitution.Letters.literal (letters : Letters delimiter u) :
    ∀ c ∈ u, isOperator c = false :=
  fun c member => isOperator_of_isAlpha (letters c member).1

theorem plain_delimited (before : Letters delimiter u) (behind : Letters delimiter v)
    (plain : isOperator delimiter = false) : ∀ c ∈ u ++ delimiter :: v, isOperator c = false := by
  rw [List.forall_mem_append, List.forall_mem_cons]
  exact ⟨before.literal, plain, behind.literal⟩

/-- The lines that two words with an escaped delimiter between them find: a slash is a character,
but a question mark lets the letter in front of it be absent. -/
def Direction.Sees (u v line : Text) : Direction → Prop
  | forward => u ++ '/' :: v <:+: line
  | backward => u ++ v <:+: line ∨ u.dropLast ++ v <:+: line

/-- The words that are taken: none that are too long, and none without a letter in front of a
question mark. -/
def Direction.Takes (u v : Text) : Direction → Prop
  | forward => (u ++ '/' :: v).byteLength ≤ longestWord
  | backward => u ≠ [] ∧ (u ++ v).byteLength + 2 ≤ longestWord

theorem compile_delimited (before : Letters d.delimiter u) (behind : Letters d.delimiter v) :
    (d.Takes u v → ∃ r, Regex.compile false (u ++ d.delimiter :: v) = .ok r ∧
      ∀ line, r.isMatch line = true ↔ d.Sees u v line) ∧
    (¬ d.Takes u v →
      ∃ refusal, Regex.compile false (u ++ d.delimiter :: v) = .error refusal) := by
  cases d with
  | forward =>
      have plain := plain_delimited before behind (by decide)
      obtain ⟨short, long⟩ := engine_lawful.compile_word plain
      refine ⟨fun takes => ?_, long⟩
      obtain ⟨r, compiled, finds⟩ := short takes
      exact ⟨r, compiled, finds.isSome_iff⟩
  | backward =>
      rcases List.eq_nil_or_concat u with rfl | ⟨u, c, last⟩
      · exact ⟨fun takes => absurd rfl takes.1, fun _ => engine_lawful.compile_question v⟩
      · obtain rfl : _ = u ++ [c] := last.trans List.concat_eq_append
        obtain ⟨letters, last⟩ := List.forall_mem_append.mp before.literal
        have typed : (u ++ [c]) ++ Direction.backward.delimiter :: v = u ++ c :: '?' :: v := by
          rw [List.append_assoc, List.singleton_append, Direction.delimiter]
        have takes : Direction.backward.Takes (u ++ [c]) v ↔
            Text.byteLength (u ++ c :: v) + 2 ≤ longestWord := by
          simp [Direction.Takes]
        obtain ⟨short, long⟩ := engine_lawful.compile_optional letters
          (last c (List.mem_singleton_self c)) behind.literal
        rw [typed, takes]
        refine ⟨fun fits => ?_, long⟩
        obtain ⟨r, compiled, finds⟩ := short fits
        refine ⟨r, compiled, fun line => ?_⟩
        rw [Direction.Sees, List.dropLast_concat, List.append_assoc, List.singleton_append]
        exact finds line

theorem escaped_words (before : Letters delimiter u) (behind : Letters delimiter v) :
    Escaped delimiter (u ++ delimiter :: v) (u ++ '\\' :: delimiter :: v) := by
  have word {w : Text} (letters : Letters delimiter w) {source written : Text}
      (rest : Escaped delimiter source written) :
      Escaped delimiter (w ++ source) (w ++ written) := by
    induction w with
    | nil => exact rest
    | cons c w ih =>
        obtain ⟨first, others⟩ := List.forall_mem_cons.mp letters.plain
        exact .plain first.1 first.2 (ih (List.forall_mem_cons.mp letters).2)
  have last := word behind .nil
  rw [List.append_nil] at last
  exact word before (.delimiter last)

/-- What an address comes to whose pattern is two words with an escaped delimiter between them: the
first line in the order of the search that they find, if there is one. -/
def Direction.ReadsEscaped (d : Direction) (u v : Text) : Prop :=
  ∀ (b : Buffer) (current : Nat) (last : Option Regex),
    let typed := patternAddress d (u ++ '\\' :: d.delimiter :: v)
    (¬ d.Takes u v → resolve typed b current last = .error .invalidPattern) ∧
    (d.Takes u v →
      (∀ line ∈ b.lines, ¬ d.Sees u v line) ∧ resolve typed b current last = .error .noMatch ∨
      ∃ addr r, b.IsFirst (d.tour b.lineCount (min current b.lineCount)) (d.Sees u v) addr ∧
        resolve typed b current last =
          if (addr : Int) < sumLimit then .ok ⟨addr, addr, ['p'], current, some r⟩
          else .error .invalidAddress)

theorem readsEscaped (before : Letters d.delimiter u) (behind : Letters d.delimiter v) :
    d.ReadsEscaped u v := by
  intro b current last
  have escaped := escaped_words before behind
  have given : u ++ d.delimiter :: v ≠ [] := by simp
  obtain ⟨short, long⟩ := compile_delimited before behind
  refine ⟨fun refused => ?_, fun takes => ?_⟩
  · obtain ⟨refusal, refused⟩ := long refused
    exact resolve_refused escaped given refused
  · obtain ⟨r, compiled, sees⟩ := short takes
    rcases Buffer.search_tour sees b current d with ⟨addr, first, found⟩ | ⟨none, missed⟩
    · exact .inr ⟨addr, r, first, resolve_found escaped given compiled found first.inside⟩
    · exact .inl ⟨none, resolve_missed escaped given compiled missed⟩

theorem append_append_inj {a b c x y z : Text} (same : a ++ b ++ c = x ++ y ++ z)
    (first : a.length = x.length) (second : b.length = y.length) : a = x ∧ b = y ∧ c = z := by
  rw [List.append_assoc, List.append_assoc] at same
  obtain ⟨front, rest⟩ := List.append_inj same first
  exact ⟨front, List.append_inj rest second⟩

/-- Replaces the first occurrence of a word, and nothing in a line without one. In the replacement
the whole match is the word, and there are no groups. -/
structure ReplacesFirst (w replacement : Text) (f : Text → Text) : Prop where
  other : ∀ line, ¬ w <:+: line → f line = line
  first : ∀ line gap rest, Regex.IsFirstAt w line gap rest →
    f line = gap ++ expansion (fun n => if n = 0 then w else []) replacement ++ rest

theorem Substitution.apply_word {s : Substitution} {replacement : Text}
    (finds : Regex.FindsWord r.program.find w) (template : s.template = toTemplate replacement)
    (once : s.flags.global = false) : ReplacesFirst w replacement (s.apply r) := by
  refine ⟨fun line absent => ?_, fun line gap rest at_gap => ?_⟩
  · rcases finds line with ⟨missed, -⟩ | ⟨m, before, behind, -, at_m, -⟩
    · exact engine_lawful.replace_missed missed _ _
    · exact absurd ⟨before, behind, at_m.text.symm⟩ absent
  · rcases finds line with ⟨-, absent⟩ | ⟨m, before, behind, found, at_m, span, groups⟩
    · exact absurd ⟨gap, rest, at_gap.text.symm⟩ absent
    · obtain ⟨g, whole, t, text, cut, matched, applied⟩ :=
        Substitution.apply_first template once found
      have same : gap.length = before.length :=
        Nat.le_antisymm (at_gap.first _ _ at_m.text) (at_m.first _ _ at_gap.text)
      rw [span, Regex.Span.mk.injEq] at cut
      obtain ⟨rfl, rfl, rfl⟩ := append_append_inj (text.symm.trans at_gap.text)
        (cut.1.symm.trans same.symm) (by omega)
      have meant : Regex.groupText line m = fun n => if n = 0 then whole else [] := by
        funext n
        cases n with
        | zero => exact matched
        | succ n => exact groups n
      rw [applied, meant]

/-- What a command comes to whose pattern is two words with an escaped delimiter between them, with
no flags behind its replacement. The pattern has the bare delimiter, and if that is no operator the
command replaces this text. -/
def CommandReadsEscaped (delimiter : Char) (u v : Text) : Prop :=
  ∀ typed replacement : Text,
    splitFields delimiter typed = [replacement] ∨
      splitFields delimiter typed = [replacement, []] →
    ∃ s, Substitution.parse ('s' :: delimiter ::
        (u ++ '\\' :: delimiter :: (v ++ delimiter :: typed))) = .ok s ∧
      s.pattern = some (u ++ delimiter :: v) ∧ s.template = toTemplate replacement ∧
      s.flags = .none ∧
      (isOperator delimiter = false →
        ((u ++ delimiter :: v).byteLength ≤ longestWord → ∃ r, s.compile = .ok (some r) ∧
          ReplacesFirst (u ++ delimiter :: v) replacement (s.apply r)) ∧
        (longestWord < (u ++ delimiter :: v).byteLength →
          s.compile = .error .invalidPattern))

theorem commandReadsEscaped (space : Text.isWhitespace delimiter = false)
    (other : delimiter ≠ '\\') (before : Letters delimiter u) (behind : Letters delimiter v) :
    CommandReadsEscaped delimiter u v := by
  intro typed replacement field
  let read (print : Bool) : Substitution :=
    ⟨some (u ++ delimiter :: v), toTemplate replacement, .none, print⟩
  have parsed : ∃ print, Substitution.parse ('s' :: delimiter ::
      (u ++ '\\' :: delimiter :: (v ++ delimiter :: typed))) = .ok (read print) := by
    rw [Substitution.parse_of_fields space,
      Substitution.splitFields_escaped_field other before.plain behind.plain]
    have given : u ++ delimiter :: v ≠ [] := by simp
    rcases field with field | field
    · rw [field]
      exact ⟨true, Substitution.make_unflagged given replacement true⟩
    · rw [field]
      exact ⟨false, Substitution.make_unflagged given replacement false⟩
  obtain ⟨print, parsed⟩ := parsed
  refine ⟨read print, parsed, rfl, rfl, rfl, fun plain => ?_⟩
  obtain ⟨short, long⟩ := engine_lawful.compile_word (plain_delimited before behind plain)
  refine ⟨fun fits => ?_, fun exceeds => ?_⟩
  · obtain ⟨r, compiled, finds⟩ := short fits
    exact ⟨r, Substitution.compile_own rfl compiled, Substitution.apply_word finds rfl rfl⟩
  · obtain ⟨refusal, refused⟩ := long (Nat.not_le_of_lt exceeds)
    exact Substitution.compile_refused rfl refused

def FindsItself (c : Char) : Prop :=
  ∃ r, Regex.compile false ['a', c, 'b'] = .ok r ∧
    ∀ line, r.isMatch line = true ↔ ['a', c, 'b'] <:+: line

theorem findsItself_iff (c : Char) : FindsItself c ↔ isOperator c = false := by
  constructor
  · rintro ⟨r, compiled, finds⟩
    cases operator : isOperator c with
    | false => rfl
    | true =>
        obtain ⟨line, other⟩ := engine_lawful.compile_operator operator compiled
        exact absurd (finds line) other
  · intro plain
    have word : ∀ x ∈ ['a', c, 'b'], isOperator x = false := by
      simp only [List.forall_mem_cons]
      exact ⟨by decide, plain, by decide, by simp⟩
    have short : Text.byteLength ['a', c, 'b'] ≤ longestWord := by
      have := Char.utf8Size_le_four c
      have letters : 'a'.utf8Size = 1 ∧ 'b'.utf8Size = 1 := by decide
      simp only [Text.byteLength, letters, longestWord]
      omega
    obtain ⟨r, compiled, finds⟩ := (engine_lawful.compile_word word).1 short
    exact ⟨r, compiled, finds.isSome_iff⟩

/-- An escaped delimiter in a pattern has lost its backslash when the pattern is read. In an address
a slash is then a slash, but a question mark makes the letter in front of it optional, or is refused
without one. In a command a delimiter that is no operator stands for itself, and no operator does. -/
theorem escaped_delimiter_read (space : Text.isWhitespace delimiter = false)
    (other : delimiter ≠ '\\') (before : Letters delimiter u) (behind : Letters delimiter v) :
    (∀ d : Direction, d.delimiter = delimiter → d.ReadsEscaped u v) ∧
      CommandReadsEscaped delimiter u v ∧
      (FindsItself delimiter ↔ isOperator delimiter = false) := by
  refine ⟨?_, commandReadsEscaped space other before behind, findsItself_iff delimiter⟩
  rintro d rfl
  exact readsEscaped before behind

theorem escaped_delimiter_read_slash :
    (∃ addr r, Buffer.IsFirst ⟨[['a', 'b'], ['a', '/', 'b']]⟩
        (Direction.forward.tour 2 (min 2 2)) (Direction.forward.Sees ['a'] ['b']) addr ∧
      resolve ['/', 'a', '\\', '/', 'b', '/'] ⟨[['a', 'b'], ['a', '/', 'b']]⟩ 2 none =
        if (addr : Int) < sumLimit then .ok ⟨addr, addr, ['p'], 2, some r⟩
        else .error .invalidAddress) ∧
    ∃ s r, Substitution.parse ['s', '/', 'a', '\\', '/', 'b', '/', 'x'] = .ok s ∧
      s.compile = .ok (some r) ∧ ReplacesFirst ['a', '/', 'b'] ['x'] (s.apply r) := by
  obtain ⟨address, command, -⟩ := @escaped_delimiter_read ['a'] ['b'] '/' (by decide) (by decide)
    (by decide) (by decide)
  constructor
  · have takes : Direction.forward.Takes ['a'] ['b'] := by
      rw [Direction.Takes]
      decide
    obtain ⟨-, found⟩ := address .forward rfl ⟨[['a', 'b'], ['a', '/', 'b']]⟩ 2 none
    rcases found takes with ⟨none, -⟩ | found
    · exact absurd List.infix_rfl (none ['a', '/', 'b'] (by simp))
    · exact found
  · obtain ⟨s, parsed, -, -, -, reads⟩ := command ['x'] ['x'] (.inl (by decide))
    obtain ⟨r, compiled, replaces⟩ := (reads (by decide)).1 (by decide)
    exact ⟨s, r, parsed, compiled, replaces⟩

/-- The question mark stays an operator, so the line that is found need not contain the text. -/
theorem escaped_question_mark_found :
    (∃ r, resolve ['?', 'a', '\\', '?', 'b', '?'] ⟨[['a', 'b']]⟩ 1 none =
      .ok ⟨1, 1, ['p'], 1, some r⟩) ∧ ¬ ['a', '?', 'b'] <:+: ['a', 'b'] :=
  ⟨⟨_, rfl⟩, fun inside => absurd inside.length_le (by decide)⟩

end LineEditor
