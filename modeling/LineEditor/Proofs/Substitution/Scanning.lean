import LineEditor.Proofs.Escapes
import LineEditor.Proofs.Address.Fields
import LineEditor.Proofs.Regex.Lawful
import LineEditor.Proofs.Substitution.Delimiter

/-! The fields of a substitution and the patterns of addresses are delimited by the same rules. Reading
delimited text once, and again behind every delimiter that ended it, gives the fields. -/
namespace LineEditor

variable {delimiter : Char} {t body rest : Text} {fields : List Text}

/-- Text that holds no delimiter but behind a backslash. A backslash and the character behind it
belong together, unless the backslash is itself the delimiter. -/
inductive Enclosed (delimiter : Char) : Text → Prop where
  | nil : Enclosed delimiter []
  | plain {c : Char} {t : Text} (notDelimiter : c ≠ delimiter) (notEscape : c ≠ '\\')
      (rest : Enclosed delimiter t) : Enclosed delimiter (c :: t)
  | pair (c : Char) {t : Text} (notDelimiter : '\\' ≠ delimiter) (rest : Enclosed delimiter t) :
      Enclosed delimiter ('\\' :: c :: t)

/-- A delimiter that is not escaped stands in a text, the first of its kind, and a rest behind it. -/
def ClosedBefore (delimiter : Char) (t rest : Text) : Prop :=
  ∃ body, Enclosed delimiter body ∧ t = body ++ delimiter :: rest

namespace ClosedBefore

theorem behind_char {c : Char} (closed : ClosedBefore delimiter t rest) (notDelimiter : c ≠ delimiter)
    (notEscape : c ≠ '\\') : ClosedBefore delimiter (c :: t) rest := by
  obtain ⟨body, enclosed, rfl⟩ := closed
  exact ⟨c :: body, .plain notDelimiter notEscape enclosed, rfl⟩

theorem behind_pair (closed : ClosedBefore delimiter t rest) (c : Char)
    (notDelimiter : '\\' ≠ delimiter) : ClosedBefore delimiter ('\\' :: c :: t) rest := by
  obtain ⟨body, enclosed, rfl⟩ := closed
  exact ⟨'\\' :: c :: body, .pair c notDelimiter enclosed, rfl⟩

end ClosedBefore

open Substitution

theorem readDelimited_of_closed (closed : ClosedBefore delimiter t rest) :
    (readDelimited delimiter t).2 = rest ∧
      splitFields delimiter t = (readDelimited delimiter t).1 :: splitFields delimiter rest := by
  obtain ⟨body, enclosed, rfl⟩ := closed
  induction enclosed with
  | nil =>
      rw [List.nil_append, readDelimited_delimiter, splitFields_delimiter]
      exact ⟨rfl, rfl⟩
  | plain notDelimiter notEscape _ ih =>
      obtain ⟨behind, split⟩ := ih
      rw [List.cons_append, readDelimited_char notDelimiter notEscape,
        splitFields_char notDelimiter notEscape, split]
      exact ⟨behind, rfl⟩
  | pair c notDelimiter _ ih =>
      obtain ⟨behind, split⟩ := ih
      rw [List.cons_append, List.cons_append, readDelimited_pair notDelimiter,
        splitFields_pair notDelimiter, split]
      exact ⟨behind, rfl⟩

theorem readDelimited_of_unclosed (unclosed : ∀ rest, ¬ ClosedBefore delimiter t rest) :
    (readDelimited delimiter t).2 = [] ∧
      splitFields delimiter t = [(readDelimited delimiter t).1] := by
  induction t using Text.delimited_induction delimiter with
  | nil => exact ⟨rfl, rfl⟩
  | ended t _ => exact absurd ⟨[], .nil, rfl⟩ (unclosed t)
  | lone other =>
      rw [readDelimited_lone other, splitFields_lone other]
      exact ⟨rfl, rfl⟩
  | pair c t other ih =>
      obtain ⟨all, only⟩ := ih fun rest closed => unclosed rest (closed.behind_pair c other)
      rw [readDelimited_pair other, splitFields_pair other, only]
      exact ⟨all, rfl⟩
  | char c t notDelimiter notEscape ih =>
      obtain ⟨all, only⟩ := ih fun rest closed =>
        unclosed rest (closed.behind_char notDelimiter notEscape)
      rw [readDelimited_char notDelimiter notEscape, splitFields_char notDelimiter notEscape, only]
      exact ⟨all, rfl⟩

/-- What the scanner reads when it is told to read up to a delimiter, and to do so again whenever it
has come to one and not to the end of the text. -/
inductive ReadsFields (delimiter : Char) : Scanner → List Text → Prop where
  | ended {s after : Scanner} {field : Text} (read : s.delimited delimiter = (field, after))
      (unclosed : ∀ rest, ¬ ClosedBefore delimiter s.ahead rest) : ReadsFields delimiter s [field]
  | closed {s after : Scanner} {field rest : Text} {fields : List Text}
      (read : s.delimited delimiter = (field, after))
      (closed : ClosedBefore delimiter s.ahead rest) (others : ReadsFields delimiter after fields) :
      ReadsFields delimiter s (field :: fields)

theorem Scanner.delimited_closed {s : Scanner} (closed : ClosedBefore delimiter s.ahead rest) :
    s.delimited delimiter = ((readDelimited delimiter s.ahead).1, .ofText rest) := by
  exact congrArg (fun behind => ((readDelimited delimiter s.ahead).1, Scanner.ofText behind))
    (readDelimited_of_closed closed).1

theorem ReadsFields.splitFields_eq {s : Scanner} (reads : ReadsFields delimiter s fields) :
    splitFields delimiter s.ahead = fields := by
  induction reads with
  | ended read unclosed =>
      rw [(readDelimited_of_unclosed unclosed).2]
      exact congrArg (fun r => [r.1]) read
  | closed read closed _ ih =>
      rw [Scanner.delimited_closed closed, Prod.mk.injEq] at read
      obtain ⟨rfl, rfl⟩ := read
      rw [(readDelimited_of_closed closed).2, ← ih]
      rfl

theorem readsFields_splitFields (delimiter : Char) (t : Text) :
    ReadsFields delimiter (.ofText t) (splitFields delimiter t) := by
  induction length : t.length using Nat.strongRecOn generalizing t with
  | ind n ih =>
      by_cases any : ∃ rest, ClosedBefore delimiter t rest
      · obtain ⟨rest, closed⟩ := any
        have shorter : rest.length < n := by
          obtain ⟨body, -, rfl⟩ := closed
          simp only [List.length_append, List.length_cons] at length
          omega
        rw [(readDelimited_of_closed closed).2]
        exact .closed (Scanner.delimited_closed closed) closed (ih _ shorter rest rfl)
      · have unclosed : ∀ rest, ¬ ClosedBefore delimiter t rest := not_exists.mp any
        rw [(readDelimited_of_unclosed unclosed).2]
        exact .ended rfl unclosed

theorem splitFields_head (delimiter : Char) (t : Text) :
    ∃ more, splitFields delimiter t = (readDelimited delimiter t).1 :: more := by
  by_cases any : ∃ rest, ClosedBefore delimiter t rest
  · obtain ⟨rest, closed⟩ := any
    exact ⟨_, (readDelimited_of_closed closed).2⟩
  · exact ⟨[], (readDelimited_of_unclosed (not_exists.mp any)).2⟩

def ownPattern (field : Text) : Option Text := if field = [] then none else some field

theorem Substitution.pattern_of_fields {first field : Text} {more : List Text} {s : Substitution}
    (made : ofFields (first :: field :: more) = .ok s) : s.pattern = ownPattern field := by
  have own {replacement flags : Text} {print : Bool}
      (h : ofFields.make field replacement flags print = .ok s) : s.pattern = ownPattern field := by
    obtain ⟨read, -, h⟩ := of_bind_ok h
    cases h
    cases field <;> rfl
  match more with
  | [] => exact own made
  | [_] => exact own made
  | [_, _] => exact own made
  | _ :: _ :: _ :: _ => cases made

theorem inForce_source {field : Text} {compiled : Option Regex}
    (h : inForce none [⟨field, false⟩] = .ok compiled) :
    compiled.map (·.source) = ownPattern field := by
  cases field with
  | nil =>
      cases h
      rfl
  | cons c field =>
      have filled : PatternField.IsFilled ⟨c :: field, false⟩ := List.cons_ne_nil c field
      rw [inForce, PatternField.last?_singleton filled] at h
      dsimp only at h
      split at h
      · next r read =>
        cases h
        exact congrArg some (Regex.engine_lawful.compile_keeps read).1
      · cases h

theorem Addresses.read_delimiter (d : Direction) (t : Text) :
    ∃ offsets more stray, (Addresses.read (d.delimiter :: t)).1 =
      .chain ⟨⟨some (.pattern d (readDelimited d.delimiter t).1), offsets⟩, more, stray⟩ := by
  have base : (Scanner.ofText (d.delimiter :: t)).readBase =
      (some (.pattern d (readDelimited d.delimiter t).1),
        .ofText (readDelimited d.delimiter t).2) := by
    cases d <;> rfl
  have blanks : Text.dropBlanks (d.delimiter :: t) = d.delimiter :: t := by
    cases d <;> rfl
  have eat : (Scanner.ofText (d.delimiter :: t)).eat '%' = (false, .ofText (d.delimiter :: t)) := by
    cases d <;> rfl
  simp only [Addresses.read, Scanner.readAddresses, Scanner.skipBlanks_ofText, blanks, eat,
    Scanner.readChain, Scanner.readComponent, base]
  exact ⟨_, _, _, rfl⟩

theorem resolve_uncompiled {d : Direction} {field : Text} {offsets : List Offset}
    {more : List (Separator × Component)} {stray : Bool} {refusal : Regex.Refusal}
    (read : (Addresses.read t).1 = .chain ⟨⟨some (.pattern d field), offsets⟩, more, stray⟩)
    (given : field ≠ []) (refused : Regex.compile false field = .error refusal) (b : Buffer)
    (current : Nat) (last : Option Regex) :
    resolve t b current last = .error .invalidPattern := by
  have adopted : Progress.adopt ⟨current, none⟩ field = .error .invalidPattern := by
    simp [Progress.adopt, given, refused]
  rw [resolve]
  simp only [read, Addresses.evaluate, Chain.evaluate, Component.value, Base.value, adopted,
    error_bind]

/-- The fields behind a delimiter are what the scanner reads up to it, again and again, and it is then
in front of what follows the delimiter. So an address and a substitution that begin alike have the
same pattern. -/
theorem splitFields_scanned (delimiter : Char) (t : Text) :
    (∀ fields, ReadsFields delimiter (.ofText t) fields ↔
      splitFields delimiter (delimiter :: t) = [] :: fields) ∧
    (∀ (s : Scanner) (rest : Text), ClosedBefore delimiter s.ahead rest →
      (s.delimited delimiter).2.rest = rest) ∧
    ∀ d : Direction, ∃ field more,
      splitFields d.delimiter (d.delimiter :: t) = [] :: field :: more ∧
      (∃ others, (Addresses.read (d.delimiter :: t)).1.fields = ⟨field, false⟩ :: others) ∧
      (∀ b current last r, resolve (d.delimiter :: t) b current last = .ok r →
        (Addresses.read (d.delimiter :: t)).1.fields.length = 1 →
        r.pattern.map (·.source) = ownPattern field) ∧
      (∀ refusal, field ≠ [] → Regex.compile false field = .error refusal →
        ∀ b current last, resolve (d.delimiter :: t) b current last = .error .invalidPattern) ∧
      ∀ s, Substitution.parse ('s' :: d.delimiter :: t) = .ok s → s.pattern = ownPattern field := by
  refine ⟨fun fields => ?_, fun s rest closed => ?_, fun d => ?_⟩
  · rw [splitFields_delimiter]
    constructor
    · intro reads
      rw [← reads.splitFields_eq]
      rfl
    · intro split
      rw [← (List.cons.inj split).2]
      exact readsFields_splitFields delimiter t
  · rw [Scanner.delimited_closed closed]
    rfl
  · obtain ⟨more, split⟩ := splitFields_head d.delimiter t
    obtain ⟨offsets, others, stray, read⟩ := Addresses.read_delimiter d t
    have fields : (Addresses.read (d.delimiter :: t)).1.fields =
        ⟨(readDelimited d.delimiter t).1, false⟩ :: others.flatMap (·.2.fields) := by
      rw [read]
      rfl
    refine ⟨_, more, ?_, ⟨_, fields⟩, fun b current last r resolution alone => ?_,
      fun refusal given refused => resolve_uncompiled read given refused, fun s parsed => ?_⟩
    · rw [splitFields_delimiter, split]
    · obtain ⟨-, pattern⟩ := resolve_ok resolution
      rw [fields, List.length_cons, Nat.succ_inj, List.length_eq_zero_iff] at alone
      rw [fields, alone] at pattern
      exact inForce_source pattern
    · have space : Text.isWhitespace d.delimiter = false := by cases d <;> decide
      rw [Substitution.parse_of_fields space, split] at parsed
      exact Substitution.pattern_of_fields parsed

theorem splitFields_scanned_end :
    ReadsFields '/' (.ofText ['a', '\\', '/', '\\', '\\', '/']) [['a', '/', '\\', '\\'], []] ∧
      ClosedBefore '/' ['a', '\\', '/', '\\', '\\', '/'] [] ∧
      ((Scanner.ofText ['a', '\\', '/', '\\', '\\', '/']).delimited '/').2.rest = [] := by
  have body : Enclosed '/' ['a', '\\', '/', '\\', '\\'] :=
    .plain (by decide) (by decide) (.pair '/' (by decide) (.pair '\\' (by decide) .nil))
  have closed : ClosedBefore '/' ['a', '\\', '/', '\\', '\\', '/'] [] := ⟨_, body, rfl⟩
  obtain ⟨fields, rest, -⟩ := splitFields_scanned '/' ['a', '\\', '/', '\\', '\\', '/']
  exact ⟨(fields _).mpr (by decide), closed, rest _ [] closed⟩

end LineEditor
