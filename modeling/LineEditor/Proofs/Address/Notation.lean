import LineEditor.Address.Chain

/-! How a chain of addresses may be typed, with blanks in front of it and behind any of its parts.
Reading what was typed gives the chain back, and leaves the command that follows. -/
namespace LineEditor

namespace Text

def Blank (t : Text) : Prop := ∀ c ∈ t, isBlank c = true

instance (t : Text) : Decidable (Blank t) := List.decidableBAll _ t

def IsRun (t : Text) : Prop := t ≠ [] ∧ ∀ c ∈ t, c.isDigit = true

instance (t : Text) : Decidable (IsRun t) :=
  have : Decidable (∀ c ∈ t, c.isDigit = true) := List.decidableBAll _ t
  instDecidableAnd

def Free (kind : Char → Bool) (t : Text) : Prop := ∀ c ∈ t.head?, kind c = false

instance (kind : Char → Bool) (t : Text) : Decidable (Free kind t) :=
  Option.decidableForallMem t.head?

variable {kind : Char → Bool} {gap run t : Text}

theorem free_cons (c : Char) (h : kind c = false) : Free kind (c :: t) := by
  rintro _ ⟨⟩
  exact h

theorem Free.mono {kind' : Char → Bool} (free : Free kind t)
    (h : ∀ c, kind' c = true → kind c = true) : Free kind' t := by
  intro c hc
  cases found : kind' c with
  | false => rfl
  | true => exact absurd (h c found) (by simp [free c hc])

theorem isDigit_of_isBlank (c : Char) (h : isBlank c = true) : c.isDigit = false := by
  simp only [isBlank, Bool.or_eq_true, decide_eq_true_eq] at h
  rcases h with rfl | rfl <;> decide

theorem isBlank_of_isDigit (c : Char) (h : c.isDigit = true) : isBlank c = false := by
  cases blank : isBlank c with
  | false => rfl
  | true => simp [isDigit_of_isBlank c blank] at h

theorem Free.behind_blanks (free : Free kind t) (blank : Blank gap)
    (h : ∀ c, isBlank c = true → kind c = false) : Free kind (gap ++ t) := by
  cases gap with
  | nil => exact free
  | cons c gap => exact free_cons c (h c (blank c List.mem_cons_self))

theorem dropBlanks_append (blank : Blank gap) (free : Free isBlank t) :
    dropBlanks (gap ++ t) = t := by
  rw [dropBlanks, List.dropWhile_append_of_pos blank]
  cases t with
  | nil => rfl
  | cons c t => exact List.dropWhile_cons_of_neg (by simp [free c rfl])

theorem takeWhile_run (digits : ∀ c ∈ run, c.isDigit = true) (free : Free Char.isDigit t) :
    (run ++ t).takeWhile Char.isDigit = run ∧ (run ++ t).dropWhile Char.isDigit = t := by
  rw [List.takeWhile_append_of_pos digits, List.dropWhile_append_of_pos digits]
  cases t with
  | nil => simp
  | cons c t => simp [free c rfl]

end Text

/-- What may stand between delimiters for a source text. A backslash in front of a delimiter takes
its meaning from it; with any other character the two stand for themselves. -/
inductive Escaped (delimiter : Char) : Text → Text → Prop where
  | nil : Escaped delimiter [] []
  | plain {c : Char} {source written : Text} (notDelimiter : c ≠ delimiter) (notEscape : c ≠ '\\')
      (rest : Escaped delimiter source written) : Escaped delimiter (c :: source) (c :: written)
  | delimiter {source written : Text} (rest : Escaped delimiter source written) :
      Escaped delimiter (delimiter :: source) ('\\' :: delimiter :: written)
  | escape {c : Char} {source written : Text} (notDelimiter : c ≠ delimiter)
      (rest : Escaped delimiter source written) :
      Escaped delimiter ('\\' :: c :: source) ('\\' :: c :: written)

theorem readDelimited_escaped {delimiter : Char} {source written : Text}
    (h : Escaped delimiter source written) (notEscape : delimiter ≠ '\\') (t : Text) :
    readDelimited delimiter (written ++ delimiter :: t) = (source, t) := by
  induction h with
  | nil =>
      unfold readDelimited
      simp
  | plain notDelimiter notEscape _ ih =>
      unfold readDelimited
      simp [notDelimiter, notEscape, ih]
  | delimiter _ ih =>
      unfold readDelimited
      simp [notEscape.symm, ih]
  | escape notDelimiter _ ih =>
      unfold readDelimited
      simp [notEscape.symm, notDelimiter, ih]

def Sign.char : Sign → Char
  | plus => '+'
  | minus => '-'

@[simp] theorem Sign.ofChar?_char (s : Sign) : ofChar? s.char = some s := by
  cases s <;> rfl

def Separator.char : Separator → Char
  | comma => ','
  | semicolon => ';'

@[simp] theorem Separator.ofChar?_char (s : Separator) : ofChar? s.char = some s := by
  cases s <;> rfl

inductive Base.Written : Base → Text → Prop where
  | number {digits : Text} (run : Text.IsRun digits) : Written (.number digits) digits
  | current : Written .current ['.']
  | last : Written .last ['$']
  | pattern (d : Direction) {source written : Text} (escaped : Escaped d.delimiter source written) :
      Written (.pattern d source) (d.delimiter :: written ++ [d.delimiter])

inductive Offset.Written : Offset → Text → Prop where
  | alone (sign : Sign) : Written ⟨sign, none⟩ [sign.char]
  | digits (sign : Sign) {gap digits : Text} (blank : Text.Blank gap) (run : Text.IsRun digits) :
      Written ⟨sign, some digits⟩ (sign.char :: gap ++ digits)

inductive Offsets.Written : List Offset → Text → Prop where
  | nil : Written [] []
  | cons {o : Offset} {offsets : List Offset} {written gap rest : Text} (offset : o.Written written)
      (blank : Text.Blank gap) (more : Written offsets rest) :
      Written (o :: offsets) (written ++ gap ++ rest)

inductive Component.Written : Component → Text → Prop where
  | offsets {offsets : List Offset} {written : Text} (h : Offsets.Written offsets written) :
      Written ⟨none, offsets⟩ written
  | based {base : Base} {offsets : List Offset} {written gap rest : Text}
      (first : base.Written written) (blank : Text.Blank gap) (h : Offsets.Written offsets rest) :
      Written ⟨some base, offsets⟩ (written ++ gap ++ rest)

inductive Components.Written : List (Separator × Component) → Text → Prop where
  | nil : Written [] []
  | cons (separator : Separator) {c : Component} {more : List (Separator × Component)}
      {gap written rest : Text} (blank : Text.Blank gap) (component : c.Written written)
      (others : Written more rest) :
      Written ((separator, c) :: more) (separator.char :: gap ++ written ++ rest)

inductive Chain.Written : Chain → Text → Prop where
  | mk {first : Component} {more : List (Separator × Component)} {gap written rest : Text}
      (blank : Text.Blank gap) (component : first.Written written)
      (others : Components.Written more rest) :
      Written ⟨first, more, false⟩ (gap ++ written ++ rest)

def joinsComponent (c : Char) : Bool :=
  Text.isBlank c || opensBase c || (Sign.ofChar? c).isSome

theorem isBlank_of_joins (c : Char) (h : Text.isBlank c = true) : joinsComponent c = true := by
  simp [joinsComponent, h]

theorem isDigit_of_joins (c : Char) (h : c.isDigit = true) : joinsComponent c = true := by
  simp [joinsComponent, opensBase, h]

theorem Offsets.Written.free {kind : Char → Bool} {offsets : List Offset} {written t : Text}
    (h : Written offsets written) (signs : kind '+' = false ∧ kind '-' = false)
    (free : Text.Free kind t) : Text.Free kind (written ++ t) := by
  cases h with
  | nil => exact free
  | cons offset blank more =>
      have sign (s : Sign) : kind s.char = false := by
        cases s with
        | plus => exact signs.1
        | minus => exact signs.2
      cases offset with
      | alone s => exact Text.free_cons _ (sign s)
      | digits s => exact Text.free_cons _ (sign s)

theorem Base.Written.opens {base : Base} {written : Text} (h : base.Written written) :
    ∃ c tail, written = c :: tail ∧ opensBase c = true := by
  cases h with
  | number run =>
      obtain ⟨c, digits, rfl⟩ := List.exists_cons_of_ne_nil run.1
      exact ⟨c, digits, rfl, by simp [opensBase, run.2 c List.mem_cons_self]⟩
  | current => exact ⟨_, _, rfl, by decide⟩
  | last => exact ⟨_, _, rfl, by decide⟩
  | pattern d escaped => exact ⟨_, _, rfl, by cases d <;> decide⟩

theorem Component.Written.free {kind : Char → Bool} {c : Component} {written t : Text}
    (h : c.Written written) (bases : ∀ c, opensBase c = true → kind c = false)
    (signs : kind '+' = false ∧ kind '-' = false) (free : Text.Free kind t) :
    Text.Free kind (written ++ t) := by
  cases h with
  | offsets more => exact more.free signs free
  | based first blank more =>
      obtain ⟨c, tail, rfl, opens⟩ := first.opens
      exact Text.free_cons c (bases c opens)

theorem Components.Written.free {kind : Char → Bool} {more : List (Separator × Component)}
    {written t : Text} (h : Written more written)
    (separators : kind ',' = false ∧ kind ';' = false) (free : Text.Free kind t) :
    Text.Free kind (written ++ t) := by
  cases h with
  | nil => exact free
  | cons separator =>
      cases separator with
      | comma => exact Text.free_cons _ separators.1
      | semicolon => exact Text.free_cons _ separators.2

theorem isBlank_of_opensBase (c : Char) (h : opensBase c = true) : Text.isBlank c = false := by
  cases blank : Text.isBlank c with
  | false => rfl
  | true =>
      simp only [Text.isBlank, Bool.or_eq_true, decide_eq_true_eq] at blank
      rcases blank with rfl | rfl <;> exact absurd h (by decide)

namespace Scanner

variable {gap written t : Text}

theorem digits_run {run : Text} (isRun : Text.IsRun run) (free : Text.Free Char.isDigit t) :
    (ofText (run ++ t)).digits = (some run, ofText t) := by
  obtain ⟨nonempty, digits⟩ := isRun
  have split := Text.takeWhile_run digits free
  unfold Scanner.digits
  simp only [ofText, split.1, split.2]

theorem digits_none (free : Text.Free Char.isDigit t) :
    (ofText t).digits = (none, ofText t) := by
  have none : t.takeWhile Char.isDigit = [] := by
    simpa using (@Text.takeWhile_run [] t (by simp) free).1
  unfold Scanner.digits
  simp only [ofText, none]
  rfl

theorem delimited_escaped {delimiter : Char} {source : Text}
    (escaped : Escaped delimiter source written) (notEscape : delimiter ≠ '\\') :
    (ofText (delimiter :: (written ++ delimiter :: t))).bump.2.delimited delimiter =
      (source, ofText t) := by
  simp only [delimited, bump, ofText, List.tail_cons, readDelimited_escaped escaped notEscape t]

theorem readBase_written {base : Base} (h : base.Written written)
    (free : Text.Free Char.isDigit t) :
    (ofText (written ++ t)).readBase = (some base, ofText t) := by
  cases h with
  | number run =>
      obtain ⟨c, digits, rfl⟩ := List.exists_cons_of_ne_nil run.1
      have digit : c.isDigit = true := run.2 c List.mem_cons_self
      have read := digits_run run free
      rw [List.cons_append] at read ⊢
      simp only [readBase, peek_ofText, List.head?_cons, digit, if_true, read, Option.map_some]
  | current => rfl
  | last => rfl
  | @pattern d source written escaped =>
      have plain : d.delimiter.isDigit = false ∧ d.delimiter ≠ '.' ∧ d.delimiter ≠ '$' := by
        cases d <;> decide
      have read := @delimited_escaped written t _ _ escaped (by cases d <;> decide)
      rw [List.append_assoc, List.cons_append, List.cons_append, List.nil_append]
      simp only [readBase, peek_ofText, List.head?_cons, plain, Direction.ofDelimiter?_delimiter,
        Bool.false_eq_true, if_false, read]

theorem readBase_none (free : Text.Free opensBase t) :
    (ofText t).readBase = (none, ofText t) := by
  cases t with
  | nil => rfl
  | cons c t =>
      have h := free c rfl
      simp only [opensBase, Bool.or_eq_false_iff, decide_eq_false_iff_not] at h
      obtain ⟨⟨⟨digit, dot⟩, dollar⟩, direction⟩ := h
      rw [Option.isSome_eq_false_iff, Option.isNone_iff_eq_none] at direction
      simp only [readBase, peek_ofText, List.head?_cons, digit, dot, dollar, direction,
        Bool.false_eq_true, if_false]

theorem digits_written {o : Offset} (h : o.Written written) (blank : Text.Blank gap)
    (noBlank : Text.Free Text.isBlank t) (noDigit : Text.Free Char.isDigit t) :
    ∃ tail after, written ++ gap ++ t = o.sign.char :: tail ∧ Text.Blank after ∧
      (ofText tail).skipBlanks.digits = (o.digits, ofText (after ++ t)) := by
  cases h with
  | alone sign =>
      refine ⟨gap ++ t, [], by simp, by simp [Text.Blank], ?_⟩
      rw [skipBlanks_ofText, Text.dropBlanks_append blank noBlank]
      exact digits_none noDigit
  | @digits sign between digits inner run =>
      refine ⟨between ++ (digits ++ (gap ++ t)), gap, by simp, blank, ?_⟩
      have opens : Text.Free Text.isBlank (digits ++ (gap ++ t)) := by
        obtain ⟨c, digits, rfl⟩ := List.exists_cons_of_ne_nil run.1
        exact Text.free_cons c (Text.isBlank_of_isDigit c (run.2 c List.mem_cons_self))
      rw [skipBlanks_ofText, Text.dropBlanks_append inner opens]
      exact digits_run run (noDigit.behind_blanks blank Text.isDigit_of_isBlank)

theorem readOffsets_written {offsets : List Offset} {fuel : Nat}
    (h : Offsets.Written offsets written) (enough : offsets.length ≤ fuel)
    (blank : Text.Blank gap) (free : Text.Free joinsComponent t) :
    readOffsets fuel (ofText (gap ++ (written ++ t))) = (offsets, ofText t) := by
  have noBlank : Text.Free Text.isBlank t := free.mono isBlank_of_joins
  have noDigit : Text.Free Char.isDigit t := free.mono isDigit_of_joins
  induction h generalizing fuel gap with
  | nil =>
      have skipped : Text.dropBlanks (gap ++ t) = t := Text.dropBlanks_append blank noBlank
      have noSign : t.head?.bind Sign.ofChar? = none := by
        cases t with
        | nil => rfl
        | cons c t =>
            have joins := free c rfl
            simp only [joinsComponent, Bool.or_eq_false_iff, Option.isSome_eq_false_iff,
              Option.isNone_iff_eq_none] at joins
            exact joins.2
      cases fuel with
      | zero => simp only [readOffsets, List.nil_append, skipBlanks_ofText, skipped]
      | succ fuel =>
          simp only [readOffsets, List.nil_append, skipBlanks_ofText, skipped, peek_ofText, noSign]
  | @cons o offsets written between rest offset inner more ih =>
      rw [List.length_cons] at enough
      obtain ⟨fuel, rfl⟩ : ∃ n, fuel = n + 1 := ⟨fuel - 1, by omega⟩
      have restNoBlank : Text.Free Text.isBlank (rest ++ t) :=
        more.free (by decide) noBlank
      have restNoDigit : Text.Free Char.isDigit (rest ++ t) :=
        more.free (by decide) noDigit
      obtain ⟨tail, after, opens, afterBlank, digits⟩ :=
        digits_written offset inner restNoBlank restNoDigit
      have skipped : Text.dropBlanks (gap ++ (o.sign.char :: tail)) = o.sign.char :: tail :=
        Text.dropBlanks_append blank (Text.free_cons _ (by cases o.sign <;> decide))
      have others : readOffsets fuel (ofText (after ++ (rest ++ t))) = (offsets, ofText t) :=
        ih (by omega) afterBlank
      have taken : (ofText (o.sign.char :: tail)).bump.2.commit = ofText tail := rfl
      rw [skipBlanks_ofText] at digits
      rw [List.append_assoc, opens]
      simp only [readOffsets, skipBlanks_ofText, skipped, peek_ofText, List.head?_cons,
        Option.bind_some, Sign.ofChar?_char, taken, digits, others]

theorem length_offsets_le {offsets : List Offset} (h : Offsets.Written offsets written) :
    offsets.length ≤ written.length := by
  induction h with
  | nil => exact Nat.le_refl _
  | cons offset blank more ih =>
      cases offset <;> simp only [List.length_cons, List.length_append] <;> omega

theorem readOffsets_length {offsets : List Offset} (h : Offsets.Written offsets written)
    (blank : Text.Blank gap) (free : Text.Free joinsComponent t) :
    readOffsets (gap ++ (written ++ t)).length (ofText (gap ++ (written ++ t))) =
      (offsets, ofText t) := by
  refine readOffsets_written h ?_ blank free
  have shorter := length_offsets_le h
  simp only [List.length_append]
  omega

theorem readComponent_written {c : Component} (h : c.Written written) (blank : Text.Blank gap)
    (free : Text.Free joinsComponent t) :
    (ofText (gap ++ (written ++ t))).readComponent = (c, ofText t) := by
  have noBlank : Text.Free Text.isBlank t := free.mono isBlank_of_joins
  have noDigit : Text.Free Char.isDigit t := free.mono isDigit_of_joins
  cases h with
  | @offsets offsets _ more =>
      have noBase : Text.Free opensBase t := free.mono fun c h => by simp [joinsComponent, h]
      have skipped : Text.dropBlanks (gap ++ (written ++ t)) = written ++ t :=
        Text.dropBlanks_append blank (more.free (by decide) noBlank)
      have none : (ofText (written ++ t)).readBase = (none, ofText (written ++ t)) :=
        readBase_none (more.free (by decide) noBase)
      have others := @readOffsets_length [] written t offsets more (by simp [Text.Blank]) free
      rw [List.nil_append] at others
      simp only [readComponent, skipBlanks_ofText, skipped, none, rest_ofText, others]
  | @based base offsets written between rest first inner more =>
      have opens : Text.Free Text.isBlank (written ++ (between ++ (rest ++ t))) := by
        obtain ⟨c, tail, rfl, opens⟩ := first.opens
        exact Text.free_cons c (isBlank_of_opensBase c opens)
      have skipped := Text.dropBlanks_append blank opens
      have restNoDigit := more.free (by decide) noDigit
      have base := readBase_written first
        (restNoDigit.behind_blanks inner Text.isDigit_of_isBlank)
      have others := readOffsets_length more inner free
      rw [List.append_assoc, List.append_assoc]
      simp only [readComponent, skipBlanks_ofText, skipped, base, rest_ofText, others]

theorem readMore_written {more : List (Separator × Component)} {fuel : Nat}
    (h : Components.Written more written) (enough : more.length ≤ fuel)
    (free : Text.Free joinsComponent t) (ends : Text.Free (Separator.ofChar? · |>.isSome) t) :
    readMore fuel (ofText (written ++ t)) = (more, ofText t) := by
  induction h generalizing fuel with
  | nil =>
      have noSeparator : t.head?.bind Separator.ofChar? = none := by
        cases t with
        | nil => rfl
        | cons c t => simpa using ends c rfl
      cases fuel with
      | zero => rfl
      | succ fuel => simp only [readMore, List.nil_append, peek_ofText, noSeparator]
  | @cons separator c more gap written rest blank component others ih =>
      rw [List.length_cons] at enough
      obtain ⟨fuel, rfl⟩ : ∃ n, fuel = n + 1 := ⟨fuel - 1, by omega⟩
      have restFree : Text.Free joinsComponent (rest ++ t) :=
        others.free (by decide) free
      have first := readComponent_written component blank restFree
      have behind : readMore fuel (ofText (rest ++ t)) = (more, ofText t) := ih (by omega)
      have taken (tail : Text) :
          (ofText (separator.char :: tail)).bump.2.commit = ofText tail := rfl
      rw [List.append_assoc, List.append_assoc, List.cons_append]
      simp only [readMore, peek_ofText, List.head?_cons, Option.bind_some,
        Separator.ofChar?_char, taken, first, behind]

theorem length_more_le {more : List (Separator × Component)}
    (h : Components.Written more written) : more.length ≤ written.length := by
  induction h with
  | nil => exact Nat.le_refl _
  | cons separator blank component others ih =>
      simp only [List.length_cons, List.length_append]
      omega

end Scanner

def extendsChain (c : Char) : Bool :=
  Text.isBlank c || c.isDigit || ['.', '$', '+', '-', '/', '?', ',', ';'].contains c

theorem extendsChain_of_joins (c : Char) (h : joinsComponent c = true) :
    extendsChain c = true := by
  have base (h : (Direction.ofDelimiter? c).isSome = true) : c = '/' ∨ c = '?' := by
    unfold Direction.ofDelimiter? at h
    split at h <;> simp_all
  have sign (h : (Sign.ofChar? c).isSome = true) : c = '+' ∨ c = '-' := by
    unfold Sign.ofChar? at h
    split at h <;> simp_all
  simp only [joinsComponent, opensBase, Bool.or_eq_true, decide_eq_true_eq] at h
  simp only [extendsChain, Bool.or_eq_true, List.contains_iff_mem, List.mem_cons]
  grind

theorem extendsChain_of_separator (c : Char) (h : (Separator.ofChar? c).isSome = true) :
    extendsChain c = true := by
  unfold Separator.ofChar? at h
  split at h
  · decide
  · decide
  · cases h

/-- The characters that a command cannot begin with, because they belong to its addresses. -/
def isAddressChar (c : Char) : Bool :=
  Text.isBlank c || c.isDigit || ['.', '$', '+', '-', '/', '?', ',', ';', '%'].contains c

theorem isAddressChar_of_extendsChain (c : Char) (h : extendsChain c = true) :
    isAddressChar c = true := by
  simp only [extendsChain, Bool.or_eq_true, List.contains_iff_mem, List.mem_cons] at h
  simp only [isAddressChar, Bool.or_eq_true, List.contains_iff_mem, List.mem_cons]
  grind

theorem not_opensBase_percent (c : Char) (h : opensBase c = true) : (c == '%') = false := by
  cases percent : c == '%' with
  | false => rfl
  | true =>
      rw [eq_of_beq percent] at h
      exact absurd h (by decide)

theorem Chain.Written.behind_blanks {c : Chain} {written v : Text} (h : c.Written written)
    (free : Text.Free joinsComponent v) :
    ∃ component rest, c.first.Written component ∧ Components.Written c.more rest ∧
      Text.dropBlanks (written ++ v) = component ++ (rest ++ v) := by
  obtain @⟨first, more, gap, component, rest, blank, isFirst, others⟩ := h
  have noBlank : Text.Free Text.isBlank (component ++ (rest ++ v)) :=
    isFirst.free isBlank_of_opensBase (by decide)
      ((others.free (by decide) free).mono isBlank_of_joins)
  refine ⟨component, rest, isFirst, others, ?_⟩
  rw [List.append_assoc, List.append_assoc, Text.dropBlanks_append blank noBlank]

theorem Chain.Written.noStray {c : Chain} {written : Text} (h : c.Written written) :
    c.stray = false := by
  cases h
  rfl

/-- What was written is read, and what cannot go on with it is left. A percent sign in front would
be read instead. -/
theorem Addresses.read_chain {c : Chain} {written v : Text} (h : c.Written written)
    (ends : Text.Free extendsChain v)
    (notWhole : (Text.dropBlanks (written ++ v)).head? ≠ some '%') :
    Addresses.read (written ++ v) = (.chain c, v) := by
  have free : Text.Free joinsComponent v := ends.mono extendsChain_of_joins
  obtain ⟨component, rest, isFirst, others, skipped⟩ := h.behind_blanks free
  rw [skipped] at notWhole
  have kept : (Scanner.ofText (component ++ (rest ++ v))).eat '%' =
      (false, .ofText (component ++ (rest ++ v))) :=
    if_neg notWhole
  have head := @Scanner.readComponent_written [] component (rest ++ v) c.first isFirst
    (by simp [Text.Blank]) (others.free (by decide) free)
  have enough : c.more.length ≤ (rest ++ v).length := by
    have shorter := Scanner.length_more_le others
    rw [List.length_append]
    omega
  have tail := Scanner.readMore_written others enough free (ends.mono extendsChain_of_separator)
  have noStray : v.head?.any opensBase = c.stray := by
    rw [h.noStray]
    cases v with
    | nil => rfl
    | cons c v =>
        have joins := free c rfl
        simp only [joinsComponent, Bool.or_eq_false_iff] at joins
        exact joins.1.2
  rw [List.nil_append] at head
  simp only [Addresses.read, Scanner.readAddresses, Scanner.skipBlanks_ofText, skipped, kept,
    Scanner.readChain, head, Scanner.rest_ofText, tail, Scanner.peek_ofText, noStray]

theorem Addresses.read_written {c : Chain} {written v : Text} (h : c.Written written)
    (command : Text.Free isAddressChar v) : Addresses.read (written ++ v) = (.chain c, v) := by
  have ends : Text.Free extendsChain v := command.mono isAddressChar_of_extendsChain
  obtain ⟨component, rest, isFirst, others, skipped⟩ :=
    h.behind_blanks (ends.mono extendsChain_of_joins)
  have notWhole : Text.Free (· == '%') (component ++ (rest ++ v)) := by
    refine isFirst.free not_opensBase_percent (by decide) ?_
    refine others.free (by decide) (command.mono fun c percent => ?_)
    rw [eq_of_beq percent]
    decide
  refine Addresses.read_chain h ends fun percent => ?_
  rw [skipped] at percent
  exact absurd (notWhole '%' percent) (by decide)

end LineEditor
