import LineEditor.Regex.Matching

/-! Paths through a program: what matching looks for, without preference and without slots. A path
leads from an instruction at one place of a text to acceptance at another. -/
namespace LineEditor.Regex

namespace Place

inductive Ahead : Place → Place → Prop where
  | here (p : Place) : Ahead p p
  | further {offset : Nat} {before : Option Char} {c : Char} {rest : Text} {q : Place}
      (more : Ahead ⟨offset + 1, some c, rest⟩ q) : Ahead ⟨offset, before, c :: rest⟩ q

theorem Ahead.trans {p q r : Place} (first : p.Ahead q) (second : q.Ahead r) : p.Ahead r := by
  induction first with
  | here => exact second
  | further _ ih => exact .further (ih second)

theorem Ahead.next {p : Place} {offset : Nat} {before : Option Char} {c : Char} {rest : Text}
    (ahead : p.Ahead ⟨offset, before, c :: rest⟩) : p.Ahead ⟨offset + 1, some c, rest⟩ :=
  ahead.trans (.further (.here _))

theorem Ahead.text {p q : Place} (ahead : p.Ahead q) :
    ∃ between, p.rest = between ++ q.rest ∧ q.offset = p.offset + between.length := by
  induction ahead with
  | here p => exact ⟨[], rfl, rfl⟩
  | @further offset before c rest q _ ih =>
      obtain ⟨between, text, place⟩ := ih
      refine ⟨c :: between, congrArg (c :: ·) text, ?_⟩
      rw [place, List.length_cons]
      dsimp only
      omega

theorem Ahead.offset_le {p q : Place} (ahead : p.Ahead q) : p.offset ≤ q.offset := by
  obtain ⟨between, -, place⟩ := ahead.text
  omega

theorem advance_text {p : Place} {between rest : Text} (text : p.rest = between ++ rest) :
    p.Ahead (p.advance between.length) ∧ (p.advance between.length).rest = rest ∧
      (p.advance between.length).offset = p.offset + between.length := by
  induction between generalizing p with
  | nil =>
      rw [List.length_nil, advance]
      exact ⟨.here p, text, rfl⟩
  | cons c between ih =>
      obtain ⟨offset, before, more⟩ := p
      obtain rfl : more = c :: (between ++ rest) := text
      obtain ⟨ahead, behind, place⟩ := ih (p := ⟨offset + 1, some c, between ++ rest⟩) rfl
      refine ⟨.further ahead, behind, place.trans ?_⟩
      rw [List.length_cons]
      dsimp only
      omega

end Place

/-- From an instruction at `p` acceptance is reached at `q`, in so many steps. -/
inductive Leads (code : Code) : Nat → Nat → Place → Place → Prop where
  | accept {pc : Nat} (p : Place) (found : code[pc]? = some .accept) : Leads code 0 pc p p
  | read {n pc next offset : Nat} {s : CharSet} {before : Option Char} {c : Char} {rest : Text}
      {q : Place} (found : code[pc]? = some (.read s next)) (member : s.contains c = true)
      (more : Leads code n next ⟨offset + 1, some c, rest⟩ q) :
      Leads code (n + 1) pc ⟨offset, before, c :: rest⟩ q
  | first {n pc first second : Nat} {p q : Place} (found : code[pc]? = some (.split first second))
      (more : Leads code n first p q) : Leads code (n + 1) pc p q
  | second {n pc first second : Nat} {p q : Place} (found : code[pc]? = some (.split first second))
      (more : Leads code n second p q) : Leads code (n + 1) pc p q
  | look {n pc next : Nat} {l : Look} {p q : Place} (found : code[pc]? = some (.look l next))
      (holds : l.holds p.before p.rest.head? = true) (more : Leads code n next p q) :
      Leads code (n + 1) pc p q
  | save {n pc next slot : Nat} {p q : Place} (found : code[pc]? = some (.save slot next))
      (more : Leads code n next p q) : Leads code (n + 1) pc p q

def Accepts (code : Code) (pc : Nat) (p q : Place) : Prop := ∃ n, Leads code n pc p q

variable {code : Code} {n pc next a b offset : Nat} {p q : Place} {s : CharSet} {l : Look}
  {before : Option Char} {c : Char} {rest : Text}

theorem Leads.ahead (leads : Leads code n pc p q) : p.Ahead q := by
  induction leads with
  | accept p => exact .here p
  | read _ _ _ ih => exact .further ih
  | first _ _ ih | second _ _ ih | look _ _ _ ih | save _ _ ih => exact ih

namespace Accepts

theorem ahead (accepts : Accepts code pc p q) : p.Ahead q := accepts.choose_spec.ahead

theorem accept (p : Place) (found : code[pc]? = some .accept) : Accepts code pc p p :=
  ⟨0, .accept p found⟩

theorem read (found : code[pc]? = some (.read s next)) (member : s.contains c = true)
    (more : Accepts code next ⟨offset + 1, some c, rest⟩ q) :
    Accepts code pc ⟨offset, before, c :: rest⟩ q :=
  more.elim fun n leads => ⟨n + 1, .read found member leads⟩

theorem of_read (accepts : Accepts code pc ⟨offset, before, c :: rest⟩ q)
    (found : code[pc]? = some (.read s next)) :
    Accepts code next ⟨offset + 1, some c, rest⟩ q := by
  obtain ⟨n, leads⟩ := accepts
  cases leads with
  | read other _ more =>
      cases found.symm.trans other
      exact ⟨_, more⟩
  | accept _ other => cases found.symm.trans other
  | first other | second other | look other | save other => cases found.symm.trans other

theorem first (found : code[pc]? = some (.split a b)) (more : Accepts code a p q) :
    Accepts code pc p q :=
  more.elim fun n leads => ⟨n + 1, .first found leads⟩

theorem second (found : code[pc]? = some (.split a b)) (more : Accepts code b p q) :
    Accepts code pc p q :=
  more.elim fun n leads => ⟨n + 1, .second found leads⟩

theorem look (found : code[pc]? = some (.look l next))
    (holds : l.holds p.before p.rest.head? = true) (more : Accepts code next p q) :
    Accepts code pc p q :=
  more.elim fun n leads => ⟨n + 1, .look found holds leads⟩

theorem save {slot : Nat} (found : code[pc]? = some (.save slot next))
    (more : Accepts code next p q) : Accepts code pc p q :=
  more.elim fun n leads => ⟨n + 1, .save found leads⟩

end Accepts

end LineEditor.Regex
