import LineEditor.Regex.Basic
import LineEditor.Proofs.Regex.Finding
import LineEditor.Proofs.Regex.Interface
import LineEditor.Proofs.Regex.Layout
import LineEditor.Proofs.Failure

/-! Patterns that are words: without operators every character stands for itself, and the match is
the first occurrence of the word. A question mark behind a word lets its last character be absent.
-/
namespace LineEditor.Regex

def Expr.char (c : Char) : Expr := .set (.single c)

def Piece.char (c : Char) : Piece := { expr := Expr.char c }

def Reader.behind (items : List Piece) : Reader := { flags := {}, branches := { items } }

variable {w rest : Text} {c : Char} {items : List Piece} {fuel : Nat}

theorem Reader.step_char (plain : isOperator c = false) :
    (Reader.behind items).step c rest =
      .ok (Reader.behind (Piece.char c :: items), rest) := by
  simp only [isOperator, List.contains_eq_mem, decide_eq_false_iff_not, List.mem_cons,
    List.not_mem_nil, or_false, not_or] at plain
  simp [Reader.step, plain]
  rfl

theorem Reader.run_cons (r : Reader) (simple : r.flags.verbose = false) :
    Reader.run (fuel + 1) r (c :: rest) =
      r.step c rest >>= fun next => Reader.run fuel next.1 next.2 := by
  simp [Reader.run, Flags.skip, simple]

theorem Reader.run_word (plain : ∀ c ∈ w, isOperator c = false) :
    Reader.run (fuel + w.length) (Reader.behind items) (w ++ rest) =
      Reader.run fuel (Reader.behind ((w.map Piece.char).reverse ++ items)) rest := by
  induction w generalizing items with
  | nil => rfl
  | cons c w ih =>
      obtain ⟨first, others⟩ := List.forall_mem_cons.mp plain
      have next : fuel + (c :: w).length = fuel + w.length + 1 := rfl
      rw [List.cons_append, next, Reader.run_cons _ rfl, Reader.step_char first]
      refine (ih others).trans ?_
      rw [List.map_cons, List.reverse_cons, List.append_assoc, List.singleton_append]

theorem Reader.run_last (plain : ∀ c ∈ w, isOperator c = false) :
    Reader.run (w.length + 1) (Reader.behind items) w =
      .ok (Reader.behind ((w.map Piece.char).reverse ++ items)) := by
  have ran := @Reader.run_word w [] items 1 plain
  rw [List.append_nil, Nat.add_comm] at ran
  exact ran

theorem Piece.maxDepth_le {pieces : List Piece} {n : Nat} (all : ∀ p ∈ pieces, p.depth ≤ n) :
    Piece.maxDepth pieces ≤ n := by
  have grows (start : Nat) (low : start ≤ n) (pieces : List Piece)
      (all : ∀ p ∈ pieces, p.depth ≤ n) :
      pieces.foldl (fun n p => max n p.depth) start ≤ n := by
    induction pieces generalizing start with
    | nil => exact low
    | cons p pieces ih =>
        obtain ⟨first, others⟩ := List.forall_mem_cons.mp all
        exact ih _ (Nat.max_le.mpr ⟨low, first⟩) others
  exact grows 0 (Nat.zero_le n) pieces all

theorem Expr.sequence_of_items {es : List Expr} (items : ∀ e ∈ es, e.items = [e]) :
    Expr.sequence es = Expr.chain es := by
  have flat : es.flatMap Expr.items = es := by
    induction es with
    | nil => rfl
    | cons e es ih =>
        obtain ⟨first, others⟩ := List.forall_mem_cons.mp items
        rw [List.flatMap_cons, first, ih others, List.singleton_append]
  rw [sequence, flat]

theorem Piece.expr_sequence {pieces : List Piece} (items : ∀ p ∈ pieces, p.expr.items = [p.expr]) :
    (Piece.sequence pieces).expr = Expr.chain (pieces.map (·.expr)) := by
  rcases pieces with _ | ⟨p, _ | ⟨q, pieces⟩⟩
  · rfl
  · rfl
  · exact Expr.sequence_of_items (List.forall_mem_map.mpr items)

theorem Piece.depth_sequence_le {pieces : List Piece} {n : Nat} (all : ∀ p ∈ pieces, p.depth ≤ n) :
    (Piece.sequence pieces).depth ≤ n + 1 := by
  have most := Piece.maxDepth_le all
  rcases pieces with _ | ⟨p, _ | ⟨q, pieces⟩⟩
  · exact Nat.zero_le _
  · exact Nat.le_succ_of_le (all p List.mem_cons_self)
  · exact Nat.succ_le_succ most

theorem Pattern.read_of_run {t : Text}
    (ran : Reader.run (t.length + 1) (Reader.behind []) t = .ok (Reader.behind items))
    (shallow : ∀ p ∈ items, p.depth ≤ 1) (single : ∀ p ∈ items, p.expr.items = [p.expr]) :
    Pattern.read false t = .ok ⟨Expr.chain (items.reverse.map (·.expr)), 0, []⟩ := by
  have depth : (Piece.sequence items.reverse).depth ≤ depthLimit :=
    Nat.le_trans (Piece.depth_sequence_le fun p member => shallow p (List.mem_reverse.mp member))
      (by decide)
  have finished : (Reader.behind items).branches.finish = Piece.sequence items.reverse := rfl
  have start : Reader.run (t.length + 1) { flags := { ignoreCase := false } } t =
      .ok (Reader.behind items) := ran
  rw [Pattern.read, start, ok_bind, finished, if_pos depth, Piece.expr_sequence]
  · rfl
  · exact fun p member => single p (List.mem_reverse.mp member)

def Expr.word (w : Text) : Expr := Expr.chain (w.map Expr.char)

theorem Pattern.read_word (plain : ∀ c ∈ w, isOperator c = false) :
    Pattern.read false w = .ok ⟨Expr.word w, 0, []⟩ := by
  have char (p : Piece) (member : p ∈ (w.map Piece.char).reverse ++ []) : ∃ c, p = .char c := by
    rw [List.append_nil] at member
    obtain ⟨c, -, rfl⟩ := List.mem_map.mp (List.mem_reverse.mp member)
    exact ⟨c, rfl⟩
  rw [Pattern.read_of_run (Reader.run_last plain), List.append_nil, List.reverse_reverse,
    List.map_map]
  · rfl
  · intro p member
    obtain ⟨c, rfl⟩ := char p member
    exact Nat.zero_le 1
  · intro p member
    obtain ⟨c, rfl⟩ := char p member
    rfl

def Expr.optional (c : Char) : Expr := .loop 0 (some 1) true (Expr.char c)

theorem Reader.repeatSign_greedy {r : Reader} {least : Nat} {most : Option Nat}
    (greedy : rest.head? ≠ some '?') :
    r.repeatSign least most rest = r.repeatLast least most false >>= fun r => .ok (r, rest) := by
  unfold Reader.repeatSign
  split
  · simp at greedy
  · rfl

theorem Reader.step_question (greedy : rest.head? ≠ some '?') :
    (Reader.behind (Piece.char c :: items)).step '?' rest =
      .ok (Reader.behind ({ expr := Expr.optional c, depth := 1 } :: items), rest) :=
  Reader.repeatSign_greedy greedy

theorem Pattern.read_optional {u v : Text} (before : ∀ c ∈ u, isOperator c = false)
    (plain : isOperator c = false) (behind : ∀ c ∈ v, isOperator c = false) :
    Pattern.read false (u ++ c :: '?' :: v) =
      .ok ⟨Expr.chain (u.map Expr.char ++ Expr.optional c :: v.map Expr.char), 0, []⟩ := by
  have greedy : v.head? ≠ some '?' := by
    intro lazy
    obtain ⟨v, rfl⟩ := List.head?_eq_some_iff.mp lazy
    exact absurd (behind '?' List.mem_cons_self) (by decide)
  have ran : Reader.run ((u ++ c :: '?' :: v).length + 1) (Reader.behind []) (u ++ c :: '?' :: v) =
      .ok (Reader.behind ((v.map Piece.char).reverse ++
        ({ expr := Expr.optional c, depth := 1 } :: ((u.map Piece.char).reverse ++ [])))) := by
    have fuel : (u ++ c :: '?' :: v).length + 1 = v.length + 1 + 1 + 1 + u.length := by
      rw [List.length_append, List.length_cons, List.length_cons]
      omega
    rw [fuel, Reader.run_word before, Reader.run_cons _ rfl, Reader.step_char plain, ok_bind,
      Reader.run_cons _ rfl, Reader.step_question greedy, ok_bind]
    exact Reader.run_last behind
  have item (p : Piece) (member : p ∈ (v.map Piece.char).reverse ++
      ({ expr := Expr.optional c, depth := 1 } :: ((u.map Piece.char).reverse ++ []))) :
      (∃ c, p = .char c) ∨ p = { expr := Expr.optional c, depth := 1 } := by
    simp only [List.append_nil, List.mem_append, List.mem_reverse, List.mem_map, List.mem_cons]
      at member
    grind
  rw [Pattern.read_of_run ran]
  · simp [Piece.char, Function.comp_def]
  · intro p member
    obtain ⟨_, rfl⟩ | rfl := item p member
    · exact Nat.zero_le 1
    · exact Nat.le_refl 1
  · intro p member
    obtain ⟨_, rfl⟩ | rfl := item p member
    · rfl
    · rfl

theorem Pattern.read_question (v : Text) :
    Pattern.read false ('?' :: v) = .error .repetitionMissing := by
  have refused : (Reader.behind []).repeatSign 0 (some 1) v = .error .repetitionMissing := by
    unfold Reader.repeatSign
    split <;> rfl
  have step : (Reader.behind []).step '?' v = .error .repetitionMissing := refused
  have ran : Reader.run (('?' :: v).length + 1) { flags := { ignoreCase := false } } ('?' :: v) =
      .error .repetitionMissing := by
    refine (Reader.run_cons _ rfl).trans ?_
    exact (congrArg (· >>= _) step).trans (error_bind _ _)
  rw [Pattern.read, ran, error_bind]

namespace Expr

variable {p q : Place} {u v : Text} {es fs : List Expr}

theorem matches_cons (e : Expr) (es : List Expr) :
    (chain (e :: es)).Matches p q ↔ ∃ mid, e.Matches p mid ∧ (chain es).Matches mid q := by
  cases es with
  | nil => simp [chain, Matches]
  | cons f es => rfl

theorem matches_append :
    (chain (es ++ fs)).Matches p q ↔
      ∃ mid, (chain es).Matches p mid ∧ (chain fs).Matches mid q := by
  induction es generalizing p with
  | nil => simp [chain, Matches]
  | cons e es ih =>
      rw [List.cons_append, matches_cons]
      simp only [ih, matches_cons]
      constructor
      · rintro ⟨first, one, mid, rest, last⟩
        exact ⟨mid, ⟨first, one, rest⟩, last⟩
      · rintro ⟨mid, ⟨first, one, rest⟩, last⟩
        exact ⟨first, one, mid, rest, last⟩

theorem matches_char : (char c).Matches p q ↔ p.rest = c :: q.rest ∧ q = p.advance 1 := by
  simp only [char, Matches, CharSet.contains_single, beq_iff_eq]
  constructor
  · rintro ⟨d, text, rfl, next⟩
    exact ⟨text, next⟩
  · rintro ⟨text, next⟩
    exact ⟨c, text, rfl, next⟩

theorem matches_word : (word w).Matches p q ↔ p.rest = w ++ q.rest ∧ q = p.advance w.length := by
  induction w generalizing p with
  | nil =>
      constructor
      · rintro ⟨⟩
        exact ⟨rfl, by rw [List.length_nil, Place.advance]⟩
      · rintro ⟨-, same⟩
        rw [List.length_nil, Place.advance] at same
        exact same.symm
  | cons c w ih =>
      obtain ⟨offset, before, rest⟩ := p
      rw [word, List.map_cons, matches_cons]
      constructor
      · rintro ⟨mid, first, others⟩
        obtain ⟨text, next⟩ := matches_char.mp first
        obtain ⟨more, last⟩ := ih.mp others
        obtain rfl : rest = c :: mid.rest := text
        refine ⟨congrArg (c :: ·) more, ?_⟩
        rw [last, next]
        rfl
      · rintro ⟨text, last⟩
        obtain rfl : rest = c :: (w ++ q.rest) := text
        exact ⟨⟨offset + 1, some c, w ++ q.rest⟩, matches_char.mpr ⟨rfl, rfl⟩, ih.mpr ⟨rfl, last⟩⟩

theorem matches_optional :
    (chain (u.map char ++ optional c :: v.map char)).Matches p q ↔
      (word (u ++ c :: v)).Matches p q ∨ (word (u ++ v)).Matches p q := by
  have once (a b : Place) : (optional c).Matches a b ↔ (char c).Matches a b ∨ a = b := by
    simp only [optional, Matches]
    constructor
    · rintro ⟨n, -, most, rounds⟩
      have most := most 1 rfl
      rcases n with _ | _ | n
      · exact .inr rounds
      · obtain ⟨mid, one, rfl⟩ := rounds
        exact .inl one
      · omega
    · rintro (one | same)
      · exact ⟨1, by simp, by simp, _, one, rfl⟩
      · exact ⟨0, by simp, by simp, same⟩
  rw [matches_append, word, word, List.map_append, List.map_append, matches_append, matches_append,
    List.map_cons]
  simp only [matches_cons, once]
  constructor
  · rintro ⟨mid, first, next, one | rfl, last⟩
    · exact .inl ⟨mid, first, next, one, last⟩
    · exact .inr ⟨mid, first, last⟩
  · rintro (⟨mid, first, next, one, last⟩ | ⟨mid, first, last⟩)
    · exact ⟨mid, first, next, .inl one, last⟩
    · exact ⟨mid, first, mid, .inr rfl, last⟩

end Expr

theorem occurs_of_matches {t : Text} {p q : Place} (ahead : (Place.start t).Ahead p)
    (matched : (Expr.word w).Matches p q) :
    ∃ gap rest, t = gap ++ w ++ rest ∧ p.offset = gap.length ∧
      q.offset = gap.length + w.length := by
  obtain ⟨gap, text, first⟩ := ahead.text
  obtain ⟨more, last⟩ := Expr.matches_word.mp matched
  have first : p.offset = gap.length := first.trans (Nat.zero_add _)
  refine ⟨gap, q.rest, ?_, first, ?_⟩
  · rw [List.append_assoc, ← more]
    exact text
  · rw [last, (Place.advance_text more).2.2, first]

theorem matches_of_occurs {t gap : Text} (text : t = gap ++ w ++ rest) :
    ∃ p q, (Place.start t).Ahead p ∧ (Expr.word w).Matches p q ∧ p.offset = gap.length := by
  rw [List.append_assoc] at text
  obtain ⟨ahead, behind, offset⟩ := Place.advance_text (p := .start t) text
  refine ⟨_, _, ahead, Expr.matches_word.mpr ⟨?_, rfl⟩, offset.trans (Nat.zero_add _)⟩
  rw [(Place.advance_text behind).2.1, behind]

theorem isMatch_iff {r : Regex} {e : Expr} {groups : Nat} (program : r.program = .ofExpr e groups)
    (t : Text) : r.isMatch t = true ↔ ∃ p q, (Place.start t).Ahead p ∧ e.Matches p q := by
  have leftmost := r.program.find_isLeftmost (.start t)
  rw [isMatch, Option.isSome_iff_exists]
  constructor
  · rintro ⟨m, found⟩
    obtain ⟨-, p, q, ahead, -, -, accepts⟩ := leftmost.finds m found
    rw [program] at accepts
    exact ⟨p, q, ahead, (Program.accepts_ofExpr e groups p q).mp accepts⟩
  · rintro ⟨p, q, ahead, matched⟩
    have accepts := (Program.accepts_ofExpr e groups p q).mpr matched
    rw [← program] at accepts
    obtain ⟨m, found, -⟩ := leftmost.leftmost p q ahead accepts
    exact ⟨m, found⟩

theorem matches_word_iff (w t : Text) :
    (∃ p q, (Place.start t).Ahead p ∧ (Expr.word w).Matches p q) ↔ w <:+: t := by
  constructor
  · rintro ⟨p, q, ahead, matched⟩
    obtain ⟨gap, rest, text, -⟩ := occurs_of_matches ahead matched
    exact ⟨gap, rest, text.symm⟩
  · rintro ⟨gap, rest, text⟩
    obtain ⟨p, q, ahead, matched, -⟩ := matches_of_occurs text.symm
    exact ⟨p, q, ahead, matched⟩

variable {r : Regex} {t : Text}

theorem groupText_slotless {m : Match} (slots : m.slots.size = 0) (t : Text) (n : Nat) :
    groupText t m (n + 1) = [] := by
  have empty : m.slots = #[] := Array.eq_empty_of_size_eq_zero slots
  simp [groupText, Match.group, empty]

theorem findsWord (program : r.program = .ofExpr (.word w) 0) : FindsWord r.program.find w := by
  intro t
  have leftmost := r.program.find_isLeftmost (.start t)
  have occurs {gap rest : Text} (text : t = gap ++ w ++ rest) :
      ∃ m, r.find t = some m ∧ m.span.start ≤ gap.length := by
    obtain ⟨p, q, ahead, matched, offset⟩ := matches_of_occurs text
    rw [← offset]
    refine leftmost.leftmost p q ahead ?_
    rw [program]
    exact (Program.accepts_ofExpr _ 0 p q).mpr matched
  cases found : r.program.find (.start t) with
  | none =>
      refine .inl ⟨rfl, ?_⟩
      rintro ⟨gap, rest, text⟩
      obtain ⟨m, some, -⟩ := occurs text.symm
      cases found.symm.trans some
  | some m =>
      obtain ⟨slots, p, q, ahead, start, stop, accepts⟩ := leftmost.finds m found
      rw [program] at slots accepts
      obtain ⟨gap, rest, text, first, last⟩ :=
        occurs_of_matches ahead ((Program.accepts_ofExpr _ 0 p q).mp accepts)
      refine .inr ⟨m, gap, rest, rfl, ⟨text, fun before behind again => ?_⟩, ?_,
        groupText_slotless slots t⟩
      · obtain ⟨m', same, least⟩ := occurs again
        cases found.symm.trans same
        omega
      · rw [← last, ← first, start, stop]

theorem length_utf8Bytes (c : Char) : (utf8Bytes c.toNat).length = c.utf8Size := by
  have size : c.utf8Size = if c.toNat ≤ 0x7f then 1 else if c.toNat ≤ 0x7ff then 2 else
      if c.toNat ≤ 0xffff then 3 else 4 := by
    simp only [Char.utf8Size, UInt32.le_iff_toNat_le]
    rfl
  rw [size, utf8Bytes]
  grind

theorem setSize_single (forward : Bool) (c : Char) :
    setSize forward (.single c) = c.utf8Size * stateSize := by
  have alone : (CharSet.single c).single? = some c.toNat := by simp [CharSet.single?, CharSet.single]
  rw [setSize, alone]
  exact congrArg (· * stateSize) (length_utf8Bytes c)

def Expr.sizes (forward : Bool) : List Expr → Nat
  | [] => 0
  | e :: es => e.size forward + sizes forward es

theorem Expr.sizes_append (forward : Bool) (es fs : List Expr) :
    sizes forward (es ++ fs) = sizes forward es + sizes forward fs := by
  induction es with
  | nil => rw [List.nil_append, sizes, Nat.zero_add]
  | cons e es ih => rw [List.cons_append, sizes, sizes, ih, Nat.add_assoc]

theorem Expr.size_chain (forward : Bool) {es : List Expr} (some : es ≠ []) :
    (chain es).size forward = sizes forward es := by
  induction es with
  | nil => exact absurd rfl some
  | cons e es ih =>
      cases es with
      | nil => rfl
      | cons f es => exact congrArg (e.size forward + ·) (ih (List.cons_ne_nil f es))

theorem Expr.size_char (forward : Bool) (c : Char) :
    (char c).size forward = c.utf8Size * stateSize :=
  setSize_single forward c

theorem Expr.sizes_word (forward : Bool) (w : Text) :
    sizes forward (w.map char) = w.byteLength * stateSize := by
  induction w with
  | nil => rfl
  | cons c w ih => rw [List.map_cons, sizes, size_char, ih, Text.byteLength, Nat.add_mul]

/-- The longest word that is not too large a pattern, in bytes. -/
def longestWord : Nat := 327673

theorem Expr.fits_word (w : Text) : (word w).fits = decide (w.byteLength ≤ longestWord) := by
  cases w with
  | nil => decide
  | cons c w =>
      have size (forward : Bool) :=
        (size_chain forward (List.cons_ne_nil (char c) (w.map char))).trans
          (sizes_word forward (c :: w))
      simp only [fits, word, List.map_cons, size, stateSize, forkSize, choiceSize, edgeSize,
        sizeLimit, longestWord]
      grind

theorem compile_word (plain : ∀ c ∈ w, isOperator c = false) :
    Regex.compile false w =
      if w.byteLength ≤ longestWord then .ok ⟨w, false, .ofExpr (.word w) 0, []⟩
      else .error .tooLarge := by
  rw [Regex.compile, Pattern.read_word plain, ok_bind, Expr.fits_word]
  simp only [decide_eq_true_eq]
  rfl

def Expr.wordWithout (u : Text) (c : Char) (v : Text) : Expr :=
  chain (u.map char ++ optional c :: v.map char)

theorem Expr.size_optional (forward : Bool) (c : Char) :
    (optional c).size forward = stateSize + forkSize + c.utf8Size * stateSize := by
  have once := size_char forward c
  rw [size] at once
  simp [optional, size, space, Space.of, once, Nat.add_assoc]

theorem Expr.fits_wordWithout (u v : Text) (c : Char) :
    (wordWithout u c v).fits = decide ((u ++ c :: v).byteLength + 2 ≤ longestWord) := by
  have size (forward : Bool) : (wordWithout u c v).size forward =
      (u ++ c :: v).byteLength * stateSize + (stateSize + forkSize) := by
    have whole := sizes_word forward (u ++ c :: v)
    rw [List.map_append, List.map_cons, sizes_append, sizes, size_char] at whole
    rw [wordWithout, size_chain forward (List.append_ne_nil_of_right_ne_nil _
      (List.cons_ne_nil _ _)), sizes_append, sizes, size_optional]
    omega
  simp only [fits, size, stateSize, forkSize, choiceSize, edgeSize, sizeLimit, longestWord]
  grind

theorem compile_optional {u v : Text} (before : ∀ c ∈ u, isOperator c = false)
    (plain : isOperator c = false) (behind : ∀ c ∈ v, isOperator c = false) :
    Regex.compile false (u ++ c :: '?' :: v) =
      if (u ++ c :: v).byteLength + 2 ≤ longestWord then
        .ok ⟨u ++ c :: '?' :: v, false, .ofExpr (.wordWithout u c v) 0, []⟩
      else .error .tooLarge := by
  have read : Pattern.read false (u ++ c :: '?' :: v) = .ok ⟨Expr.wordWithout u c v, 0, []⟩ :=
    Pattern.read_optional before plain behind
  rw [Regex.compile, read, ok_bind, Expr.fits_wordWithout]
  simp only [decide_eq_true_eq]
  rfl

theorem isMatch_wordWithout {u v : Text} (program : r.program = .ofExpr (.wordWithout u c v) 0)
    (t : Text) : r.isMatch t = true ↔ u ++ c :: v <:+: t ∨ u ++ v <:+: t := by
  rw [isMatch_iff program]
  simp only [Expr.wordWithout, Expr.matches_optional, ← matches_word_iff]
  grind

theorem operator_of_match {line : Text}
    (matched : (Regex.compile false ['a', c, 'b']).toOption.any (·.isMatch line) = true)
    (absent : c ∉ line) (compiled : Regex.compile false ['a', c, 'b'] = .ok r) :
    ∃ t, ¬ (r.isMatch t = true ↔ ['a', c, 'b'] <:+: t) := by
  rw [compiled] at matched
  exact ⟨line, fun finds => absent ((finds.mp matched).subset (by simp))⟩

theorem operator_of_miss
    (missed : (Regex.compile false ['a', c, 'b']).toOption.any (·.isMatch ['a', c, 'b']) = false)
    (compiled : Regex.compile false ['a', c, 'b'] = .ok r) :
    ∃ t, ¬ (r.isMatch t = true ↔ ['a', c, 'b'] <:+: t) := by
  rw [compiled] at missed
  refine ⟨['a', c, 'b'], fun finds => ?_⟩
  have matched : r.isMatch ['a', c, 'b'] = true := finds.mpr List.infix_rfl
  exact absurd (matched.symm.trans missed) (by decide)

/-- Every operator means something else between two letters, or nothing at all. -/
theorem compile_operator (operator : isOperator c = true)
    (compiled : Regex.compile false ['a', c, 'b'] = .ok r) :
    ∃ t, ¬ (r.isMatch t = true ↔ ['a', c, 'b'] <:+: t) := by
  simp only [isOperator, List.contains_eq_mem, decide_eq_true_eq, List.mem_cons,
    List.not_mem_nil, or_false] at operator
  rcases operator with rfl | rfl | rfl | rfl | rfl | rfl | rfl | rfl | rfl | rfl | rfl | rfl
  · exact @operator_of_match '\\' r ['a'] (by decide +kernel) (by decide) compiled
  · exact @operator_of_match '.' r ['a', 'c', 'b'] (by decide +kernel) (by decide) compiled
  · exact @operator_of_match '+' r ['a', 'b'] (by decide +kernel) (by decide) compiled
  · exact @operator_of_match '*' r ['a', 'b'] (by decide +kernel) (by decide) compiled
  · exact @operator_of_match '?' r ['a', 'b'] (by decide +kernel) (by decide) compiled
  · exact operator_of_miss (by decide +kernel) compiled
  · exact operator_of_miss (by decide +kernel) compiled
  · exact @operator_of_match '|' r ['a', 'b'] (by decide +kernel) (by decide) compiled
  · exact operator_of_miss (by decide +kernel) compiled
  · exact operator_of_miss (by decide +kernel) compiled
  · exact operator_of_miss (by decide +kernel) compiled
  · exact operator_of_miss (by decide +kernel) compiled

end LineEditor.Regex
