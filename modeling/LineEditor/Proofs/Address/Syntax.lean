import Mathlib.Data.List.DropRight
import LineEditor.Proofs.Escapes
import LineEditor.Proofs.Address.Notation

/-! Whatever is typed, what the scanner takes for addresses is written as addresses are, but that the
end of the line may stand for the closing delimiter of a last pattern. -/
namespace LineEditor

/-- What would close the last pattern of a text that ends in it: its delimiter, and a backslash in
front if the text ends in one. With more of the line to come there is nothing to close. -/
inductive Closing : Text → Text → Prop where
  | nothing (rest : Text) : Closing rest []
  | delimiter (d : Direction) : Closing [] [d.delimiter]
  | escaped (d : Direction) : Closing [] ['\\', d.delimiter]

theorem Closing.nothing_or_ended {rest closing : Text} (closes : Closing rest closing) :
    closing = [] ∨ rest = [] := by
  cases closes with
  | nothing => exact .inl rfl
  | delimiter d => exact .inr rfl
  | escaped d => exact .inr rfl

/-- A text begins with something of a kind, of which a last pattern may not be closed, and goes on with
a rest. -/
def Takes (kind : Text → Prop) (t rest : Text) : Prop :=
  ∃ taken closing, t = taken ++ rest ∧ Closing rest closing ∧ kind (taken ++ closing)

namespace Takes

variable {kind others joined : Text → Prop} {front t middle rest : Text}

theorem of_written (taken rest : Text) (written : kind taken) : Takes kind (taken ++ rest) rest :=
  ⟨taken, [], rfl, .nothing rest, by rwa [List.append_nil]⟩

theorem behind (front : Text) (takes : Takes kind t rest)
    (join : ∀ w, kind w → joined (front ++ w)) : Takes joined (front ++ t) rest := by
  obtain ⟨taken, closing, rfl, closes, written⟩ := takes
  refine ⟨front ++ taken, closing, (List.append_assoc ..).symm, closes, ?_⟩
  rw [List.append_assoc]
  exact join _ written

theorem append (first : Takes kind t middle) (second : Takes others middle rest)
    (nothing : others []) (join : ∀ v w, kind v → others w → joined (v ++ w)) :
    Takes joined t rest := by
  obtain ⟨taken, closing, rfl, closes, written⟩ := first
  rcases closes.nothing_or_ended with rfl | rfl
  · rw [List.append_nil] at written
    exact second.behind taken fun w => join taken w written
  · obtain ⟨more, ending, split, -, -⟩ := second
    obtain ⟨-, rfl⟩ := List.append_eq_nil_iff.mp split.symm
    have both := join _ _ written nothing
    exact ⟨taken, closing, rfl, closes, by rwa [List.append_nil] at both⟩

end Takes

def IsPattern (d : Direction) (w : Text) : Prop :=
  ∃ source written, Escaped d.delimiter source written ∧ w = written ++ [d.delimiter]

theorem readDelimited_takes (d : Direction) (t : Text) :
    Takes (IsPattern d) t (readDelimited d.delimiter t).2 := by
  have other : d.delimiter ≠ '\\' := by cases d <;> decide
  induction t using Text.delimited_induction d.delimiter with
  | nil => exact ⟨[], [d.delimiter], rfl, .delimiter d, [], [], .nil, rfl⟩
  | ended t _ =>
      have closed : IsPattern d [d.delimiter] := ⟨[], [], .nil, rfl⟩
      rw [readDelimited_delimiter]
      exact .of_written _ t closed
  | lone =>
      rw [readDelimited_lone other.symm]
      exact ⟨['\\'], ['\\', d.delimiter], rfl, .escaped d, _, _, .escape other.symm .nil, rfl⟩
  | pair e t _ ih =>
      rw [readDelimited_pair other.symm]
      refine ih.behind ['\\', e] ?_
      rintro _ ⟨source, written, escaped, rfl⟩
      by_cases same : e = d.delimiter
      · subst same
        exact ⟨_, _, .delimiter escaped, rfl⟩
      · exact ⟨_, _, .escape same escaped, rfl⟩
  | char c t notDelimiter notEscape ih =>
      rw [readDelimited_char notDelimiter notEscape]
      refine ih.behind [c] ?_
      rintro _ ⟨source, written, escaped, rfl⟩
      exact ⟨_, _, .plain notDelimiter notEscape escaped, rfl⟩

def Spaced (kind : Text → Prop) (w : Text) : Prop :=
  ∃ gap written, w = gap ++ written ∧ Text.Blank gap ∧ kind written

theorem Spaced.behind_blanks {kind : Text → Prop} {gap w : Text} (blank : Text.Blank gap)
    (spaced : Spaced kind w) : Spaced kind (gap ++ w) := by
  obtain ⟨more, written, rfl, others, kept⟩ := spaced
  exact ⟨gap ++ more, written, (List.append_assoc ..).symm,
    List.forall_mem_append.mpr ⟨blank, others⟩, kept⟩

def IsBase (w : Text) : Prop := w = [] ∨ ∃ base : Base, base.Written w

def IsOffsets (w : Text) : Prop := ∃ offsets, Offsets.Written offsets w

def IsComponent (w : Text) : Prop := ∃ c : Component, c.Written w

def IsComponents (w : Text) : Prop := ∃ more, Components.Written more w

def IsAddresses (w : Text) : Prop := Spaced (· = ['%']) w ∨ ∃ c : Chain, c.Written w

theorem blank_nil : Text.Blank [] := by
  rintro _ ⟨⟩

theorem Text.exists_blanks (t : Text) : ∃ gap, t = gap ++ Text.dropBlanks t ∧ Text.Blank gap :=
  ⟨t.takeWhile Text.isBlank, List.takeWhile_append_dropWhile.symm,
    List.all_eq_true.mp List.all_takeWhile⟩

theorem Takes.blanks {kind : Text → Prop} (nothing : kind []) (t : Text) :
    Takes (Spaced kind) t (Text.dropBlanks t) := by
  obtain ⟨gap, split, blank⟩ := t.exists_blanks
  have spaced : Spaced kind gap := ⟨gap, [], (List.append_nil gap).symm, blank, nothing⟩
  have taken := Takes.of_written gap (Text.dropBlanks t) spaced
  rwa [← split] at taken

theorem isComponent_of_parts {v w : Text} (base : IsBase v) (offsets : Spaced IsOffsets w) :
    Spaced IsComponent (v ++ w) := by
  obtain ⟨gap, written, rfl, blank, offsets, more⟩ := offsets
  rcases base with rfl | ⟨base, first⟩
  · exact ⟨gap, written, rfl, blank, _, .offsets more⟩
  · exact ⟨[], v ++ gap ++ written, (List.append_assoc ..).symm, blank_nil, _,
      .based first blank more⟩

theorem isAddresses_of_parts {v w : Text} (first : Spaced IsComponent v) (others : IsComponents w) :
    IsAddresses (v ++ w) := by
  obtain ⟨gap, written, rfl, blank, c, component⟩ := first
  obtain ⟨more, others⟩ := others
  exact .inr ⟨_, .mk blank component others⟩

theorem Direction.eq_delimiter {d : Direction} {c : Char} (h : ofDelimiter? c = some d) :
    c = d.delimiter := by
  unfold ofDelimiter? at h
  split at h <;> cases h <;> rfl

theorem Sign.opens {s : Sign} {t : Text} (h : t.head?.bind ofChar? = some s) :
    ∃ v, t = s.char :: v := by
  obtain ⟨c, first, sign⟩ := Option.bind_eq_some_iff.mp h
  obtain ⟨v, rfl⟩ := List.head?_eq_some_iff.mp first
  unfold ofChar? at sign
  split at sign <;> cases sign <;> exact ⟨v, rfl⟩

theorem Separator.opens {s : Separator} {t : Text} (h : t.head?.bind ofChar? = some s) :
    ∃ v, t = s.char :: v := by
  obtain ⟨c, first, separator⟩ := Option.bind_eq_some_iff.mp h
  obtain ⟨v, rfl⟩ := List.head?_eq_some_iff.mp first
  unfold ofChar? at separator
  split at separator <;> cases separator <;> exact ⟨v, rfl⟩

namespace Scanner

theorem commit_bump_cons (c : Char) (t : Text) : (ofText (c :: t)).bump.2.commit = ofText t := rfl

theorem digits_cases (t : Text) :
    (ofText t).digits = (none, ofText t) ∨
      ∃ run rest, t = run ++ rest ∧ Text.IsRun run ∧ (ofText t).digits = (some run, ofText rest) := by
  have split : t.takeWhile Char.isDigit ++ t.dropWhile Char.isDigit = t :=
    List.takeWhile_append_dropWhile
  have digits : ∀ c ∈ t.takeWhile Char.isDigit, c.isDigit = true :=
    List.all_eq_true.mp List.all_takeWhile
  cases front : t.takeWhile Char.isDigit with
  | nil => exact .inl (by simp [Scanner.digits, ofText, front, rewind])
  | cons c run =>
      rw [front] at split digits
      refine .inr ⟨c :: run, _, split.symm, ⟨by simp, digits⟩, ?_⟩
      simp [Scanner.digits, ofText, front]

theorem readBase_takes (t : Text) :
    ∃ rest, (ofText t).readBase.2 = ofText rest ∧ Takes IsBase t rest := by
  have absent (t : Text) : Takes IsBase t t := .of_written [] t (.inl rfl)
  cases t with
  | nil => exact ⟨[], rfl, absent []⟩
  | cons c t =>
      have single {base : Base} (written : base.Written [c]) : Takes IsBase (c :: t) t :=
        .of_written [c] t (.inr ⟨base, written⟩)
      simp only [readBase, peek_ofText, List.head?_cons]
      split
      · rcases digits_cases (c :: t) with alone | ⟨run, rest, text, digits, counted⟩
        · exact ⟨c :: t, by rw [alone], absent _⟩
        · refine ⟨rest, by rw [counted], ?_⟩
          rw [text]
          exact .of_written run rest (.inr ⟨_, .number digits⟩)
      · split
        · next dot =>
          subst dot
          exact ⟨t, rfl, single .current⟩
        · split
          · next dollar =>
            subst dollar
            exact ⟨t, rfl, single .last⟩
          · split
            · next d direction =>
              obtain rfl := Direction.eq_delimiter direction
              refine ⟨(readDelimited d.delimiter t).2, rfl, ?_⟩
              refine (readDelimited_takes d t).behind [d.delimiter] ?_
              rintro _ ⟨source, written, escaped, rfl⟩
              exact .inr ⟨_, .pattern d escaped⟩
            · exact ⟨c :: t, rfl, absent _⟩

theorem offset_behind {o : Offset} {front written gap w : Text} (blank : Text.Blank front)
    (offset : o.Written written) (between : Text.Blank gap) (others : Spaced IsOffsets w) :
    Spaced IsOffsets (front ++ written ++ gap ++ w) := by
  obtain ⟨more, rest, rfl, blanks, offsets, last⟩ := others
  have behind : Text.Blank (gap ++ more) := List.forall_mem_append.mpr ⟨between, blanks⟩
  exact ⟨front, written ++ (gap ++ more) ++ rest, by simp only [List.append_assoc], blank, _,
    .cons offset behind last⟩

theorem readOffsets_takes (fuel : Nat) (t : Text) :
    ∃ rest, (readOffsets fuel (ofText t)).2 = ofText rest ∧ Takes (Spaced IsOffsets) t rest := by
  induction fuel generalizing t with
  | zero => exact ⟨_, rfl, .blanks ⟨[], .nil⟩ t⟩
  | succ fuel ih =>
      obtain ⟨gap, text, blank⟩ := t.exists_blanks
      simp only [readOffsets, skipBlanks_ofText, peek_ofText]
      split
      · next sign found =>
        obtain ⟨v, opens⟩ := Sign.opens found
        obtain ⟨between, inner, blanks⟩ := Text.exists_blanks v
        have typed : t = gap ++ sign.char :: (between ++ Text.dropBlanks v) :=
          text.trans (congrArg (gap ++ ·) (opens.trans (congrArg (sign.char :: ·) inner)))
        rw [opens, commit_bump_cons, skipBlanks_ofText]
        rcases digits_cases (Text.dropBlanks v) with alone | ⟨run, u, digits, isRun, counted⟩
        · obtain ⟨rest, read, others⟩ := ih (Text.dropBlanks v)
          have whole : t = gap ++ [sign.char] ++ between ++ Text.dropBlanks v := by
            simpa using typed
          refine ⟨rest, by simp only [alone, read], ?_⟩
          rw [whole]
          exact others.behind _ fun _ => offset_behind blank (.alone sign) blanks
        · obtain ⟨rest, read, others⟩ := ih u
          have whole : t = gap ++ (sign.char :: between ++ run) ++ [] ++ u := by
            rw [digits] at typed
            simpa using typed
          refine ⟨rest, by simp only [counted, read], ?_⟩
          rw [whole]
          exact others.behind _ fun _ => offset_behind blank (.digits sign blanks isRun) blank_nil
      · exact ⟨_, rfl, .blanks ⟨[], .nil⟩ t⟩

theorem readComponent_takes (t : Text) :
    ∃ rest, (ofText t).readComponent.2 = ofText rest ∧ Takes (Spaced IsComponent) t rest := by
  obtain ⟨gap, split, blank⟩ := t.exists_blanks
  obtain ⟨middle, base, first⟩ := readBase_takes (Text.dropBlanks t)
  obtain ⟨rest, offsets, others⟩ := readOffsets_takes middle.length middle
  have nothing : Spaced IsOffsets [] := ⟨[], [], rfl, blank_nil, [], .nil⟩
  have component := first.append others nothing fun _ _ => isComponent_of_parts
  refine ⟨rest, ?_, ?_⟩
  · simp only [readComponent, skipBlanks_ofText, base, rest_ofText, offsets]
  · rw [split]
    exact component.behind gap fun _ => Spaced.behind_blanks blank

theorem readMore_takes (fuel : Nat) (t : Text) :
    ∃ rest, (readMore fuel (ofText t)).2 = ofText rest ∧ Takes IsComponents t rest := by
  have nothing : IsComponents [] := ⟨[], .nil⟩
  induction fuel generalizing t with
  | zero => exact ⟨t, rfl, .of_written [] t nothing⟩
  | succ fuel ih =>
      simp only [readMore, peek_ofText]
      split
      · next separator found =>
        obtain ⟨v, rfl⟩ := Separator.opens found
        obtain ⟨middle, component, first⟩ := readComponent_takes v
        obtain ⟨rest, more, others⟩ := ih middle
        have both : Takes (fun w => IsComponents ([separator.char] ++ w)) v rest :=
          first.append others nothing ?_
        · refine ⟨rest, ?_, both.behind [separator.char] fun _ => id⟩
          simp only [commit_bump_cons, component, more]
        · rintro _ _ ⟨gap, written, rfl, blank, c, component⟩ ⟨more, others⟩
          exact ⟨_, .cons separator blank component others⟩
      · exact ⟨t, rfl, .of_written [] t nothing⟩

theorem readChain_takes (t : Text) :
    ∃ rest, (ofText t).readChain.2 = ofText rest ∧ Takes IsAddresses t rest := by
  obtain ⟨middle, component, first⟩ := readComponent_takes t
  obtain ⟨rest, more, others⟩ := readMore_takes middle.length middle
  refine ⟨rest, ?_, first.append others ⟨[], .nil⟩ fun _ _ => isAddresses_of_parts⟩
  simp only [readChain, component, rest_ofText, more]

end Scanner

theorem IsAddresses.behind_blanks {gap w : Text} (blank : Text.Blank gap) (h : IsAddresses w) :
    IsAddresses (gap ++ w) := by
  rcases h with whole | ⟨c, @⟨first, more, front, component, rest, blanks, isFirst, others⟩⟩
  · exact .inl (whole.behind_blanks blank)
  · have wider : Text.Blank (gap ++ front) := List.forall_mem_append.mpr ⟨blank, blanks⟩
    have chain : Chain.Written ⟨first, more, false⟩ (gap ++ front ++ component ++ rest) :=
      .mk wider isFirst others
    exact .inr ⟨_, by simpa only [List.append_assoc] using chain⟩

/-- What is read as addresses is written as addresses, and the rest is left. -/
theorem Addresses.read_takes (t : Text) : Takes IsAddresses t (Addresses.read t).2 := by
  obtain ⟨gap, text, blank⟩ := t.exists_blanks
  have behind {rest : Text} (takes : Takes IsAddresses (Text.dropBlanks t) rest) :
      Takes IsAddresses t rest := by
    rw [text]
    exact takes.behind gap fun _ => IsAddresses.behind_blanks blank
  refine behind ?_
  by_cases percent : (Text.dropBlanks t).head? = some '%'
  · obtain ⟨v, typed⟩ := List.head?_eq_some_iff.mp percent
    have read : (Addresses.read t).2 = v := by
      simp [Addresses.read, Scanner.readAddresses, Scanner.eat, typed, Scanner.commit,
        Scanner.ofText, Scanner.skipBlanks, Scanner.peek]
    have sign : IsAddresses ['%'] := .inl ⟨[], ['%'], rfl, blank_nil, rfl⟩
    rw [read, typed]
    exact .of_written ['%'] v sign
  · obtain ⟨rest, chain, takes⟩ := Scanner.readChain_takes (Text.dropBlanks t)
    have read : (Addresses.read t).2 = rest := by
      simp [Addresses.read, Scanner.readAddresses, Scanner.eat, percent, chain]
    rw [read]
    exact takes

/-! A part of the addresses that is not there takes no more than blanks. -/

theorem Text.dropBlanks_dropBlanks (t : Text) :
    Text.dropBlanks (Text.dropBlanks t) = Text.dropBlanks t :=
  List.dropWhile_idempotent _ _

namespace Scanner

theorem readBase_absent {t : Text} (absent : (ofText t).readBase.1 = none) :
    (ofText t).readBase.2 = ofText t := by
  cases t with
  | nil => rfl
  | cons c t =>
      simp only [readBase, peek_ofText, List.head?_cons] at absent ⊢
      by_cases digit : c.isDigit = true
      · simp only [if_pos digit] at absent ⊢
        rcases digits_cases (c :: t) with alone | ⟨run, rest, -, -, counted⟩
        · rw [alone]
        · rw [counted] at absent
          cases absent
      · by_cases dot : c = '.'
        · simp [dot] at absent
        · by_cases dollar : c = '$'
          · simp [dollar] at absent
          · cases direction : Direction.ofDelimiter? c with
            | none => simp [digit, dot, dollar]
            | some d => simp [digit, dot, dollar, direction] at absent

theorem readOffsets_absent {fuel : Nat} {t : Text}
    (absent : (readOffsets fuel (ofText t)).1 = []) :
    (readOffsets fuel (ofText t)).2 = ofText (Text.dropBlanks t) := by
  cases fuel with
  | zero => rfl
  | succ fuel =>
      simp only [readOffsets] at absent ⊢
      split at absent
      · cases absent
      · rfl

theorem readMore_absent {fuel : Nat} {t : Text} (absent : (readMore fuel (ofText t)).1 = []) :
    (readMore fuel (ofText t)).2 = ofText t := by
  cases fuel with
  | zero => rfl
  | succ fuel =>
      simp only [readMore] at absent ⊢
      split at absent
      · cases absent
      · rfl

theorem readComponent_absent {t : Text} (absent : (ofText t).readComponent.1 = ⟨none, []⟩) :
    (ofText t).readComponent.2 = ofText (Text.dropBlanks t) := by
  let behind := (ofText t).skipBlanks.readBase.2
  have alone : behind = ofText (Text.dropBlanks t) := readBase_absent (congrArg Component.base absent)
  have offsets : (readOffsets behind.rest.length behind).1 = [] := congrArg Component.offsets absent
  have passed : (ofText t).readComponent.2 = (readOffsets behind.rest.length behind).2 := rfl
  rw [alone] at offsets passed
  rw [passed, readOffsets_absent offsets, Text.dropBlanks_dropBlanks]

theorem readChain_absent {t : Text} {stray : Bool}
    (absent : (ofText t).readChain.1 = ⟨⟨none, []⟩, [], stray⟩) :
    (ofText t).readChain.2 = ofText (Text.dropBlanks t) := by
  let behind := (ofText t).readComponent.2
  have alone : behind = _ := readComponent_absent (congrArg Chain.first absent)
  have more : (readMore behind.rest.length behind).1 = [] := congrArg Chain.more absent
  have passed : (ofText t).readChain.2 = (readMore behind.rest.length behind).2 := rfl
  rw [alone] at more passed
  rw [passed, readMore_absent more]

theorem length_readMore_le (fuel : Nat) (s : Scanner) : (readMore fuel s).1.length ≤ fuel := by
  induction fuel generalizing s with
  | zero => exact Nat.le_refl 0
  | succ fuel ih =>
      simp only [readMore]
      split
      · exact Nat.succ_le_succ (ih _)
      · exact Nat.zero_le _

theorem length_readChain_le (t : Text) : (ofText t).readChain.1.more.length ≤ t.length := by
  obtain ⟨middle, component, taken, -, split, -, -⟩ := readComponent_takes t
  have shorter : middle.length ≤ t.length := by
    rw [split, List.length_append]
    omega
  simp only [readChain, component, rest_ofText]
  exact Nat.le_trans (length_readMore_le _ _) shorter

end Scanner

theorem Addresses.read_of_chain {t rest : Text} {c : Chain}
    (read : Addresses.read t = (.chain c, rest)) :
    (Scanner.ofText (Text.dropBlanks t)).readChain.1 = c ∧
      (Scanner.ofText (Text.dropBlanks t)).readChain.2.rest = rest := by
  by_cases percent : (Text.dropBlanks t).head? = some '%'
  · simp [Addresses.read, Scanner.readAddresses, Scanner.eat, percent] at read
  · simpa [Addresses.read, Scanner.readAddresses, Scanner.eat, percent] using read

theorem Addresses.length_more_le {t rest : Text} {c : Chain}
    (read : Addresses.read t = (.chain c, rest)) : c.more.length ≤ t.length := by
  have shorter : (Text.dropBlanks t).length ≤ t.length := (List.dropWhile_suffix _).length_le
  rw [← (Addresses.read_of_chain read).1]
  exact Nat.le_trans (Scanner.length_readChain_le _) shorter

theorem Addresses.read_absent {t rest : Text} {stray : Bool}
    (read : Addresses.read t = (.chain ⟨⟨none, []⟩, [], stray⟩, rest)) :
    rest = Text.dropBlanks t := by
  obtain ⟨chain, behind⟩ := Addresses.read_of_chain read
  rw [← behind, Scanner.readChain_absent chain, Scanner.rest_ofText, Text.dropBlanks_dropBlanks]

theorem Addresses.read_blanks {t : Text} (blank : Text.Blank t) :
    Addresses.read t = (.chain ⟨⟨none, []⟩, [], false⟩, []) := by
  have written : Chain.Written ⟨⟨none, []⟩, [], false⟩ (t ++ [] ++ []) :=
    .mk blank (.offsets .nil) .nil
  have read := Addresses.read_written written (v := []) nofun
  rwa [List.append_nil, List.append_nil, List.append_nil] at read

end LineEditor
