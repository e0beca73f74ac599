import LineEditor.Proofs.Address.Meaning

/-! Calculations with whole numbers of any size. They keep every number that is formed on the way,
so that it can be told what is left of them in words of 64 bits. -/
namespace LineEditor

inductive Formed where
  /-- Read, added or converted, as a word with a sign. What is no such word is refused. -/
  | checked (n : Int)
  | negated (n : Int)
  /-- Counted up or down, as a word without a sign. -/
  | counted (n : Int)

namespace Formed

def InRange : Formed → Prop
  | checked n | negated n => IsWord n
  | counted n => 0 ≤ n ∧ n < addressLimit

instance : (n : Formed) → Decidable n.InRange
  | checked n | negated n => inferInstanceAs (Decidable (IsWord n))
  | counted n => inferInstanceAs (Decidable (0 ≤ n ∧ n < (addressLimit : Int)))

/-- What comes of a number that is out of range. Where nothing is checked, it overflows. -/
def misfit : Formed → EditorError
  | checked _ => .invalidAddress
  | negated _ | counted _ => .addressOverflow

end Formed

structure Exact (α : Type) where
  formed : List Formed
  result : Except EditorError α

namespace Exact

instance : Monad Exact where
  pure a := ⟨[], .ok a⟩
  bind x f :=
    match x.result with
    | .ok a => ⟨x.formed ++ (f a).formed, (f a).result⟩
    | .error e => ⟨x.formed, .error e⟩

variable {α β : Type}

def of (r : Except EditorError α) : Exact α := ⟨[], r⟩

def checked (n : Int) : Exact Int := ⟨[.checked n], .ok n⟩

def negate (n : Int) : Exact Int := ⟨[.negated (-n)], .ok (-n)⟩

def counted (n : Int) : Exact Nat := ⟨[.counted n], .ok n.toNat⟩

def settle : List Formed → Except EditorError Unit
  | [] => .ok ()
  | n :: formed => if n.InRange then settle formed else .error n.misfit

/-- What a calculation comes to in words: the first number that is out of range ends it. -/
def inWords (x : Exact α) : Except EditorError α := settle x.formed >>= fun _ => x.result

theorem settle_append (front behind : List Formed) :
    settle (front ++ behind) = settle front >>= fun _ => settle behind := by
  induction front with
  | nil => rfl
  | cons n front ih =>
      simp only [List.cons_append, settle, ih]
      split <;> rfl

theorem inWords_bind (x : Exact α) (f : α → Exact β) :
    (x >>= f).inWords = x.inWords >>= fun a => (f a).inWords := by
  obtain ⟨formed, result⟩ := x
  cases result with
  | ok a =>
      show (settle (formed ++ (f a).formed) >>= fun _ => (f a).result) =
        (settle formed >>= fun _ => .ok a) >>= fun a => (f a).inWords
      simp only [settle_append, bind_assoc, ok_bind]
      rfl
  | error e =>
      show (settle formed >>= fun _ => .error e) =
        (settle formed >>= fun _ => .error e) >>= fun a => (f a).inWords
      simp only [bind_assoc, error_bind]

theorem inWords_checked (n : Int) : (checked n).inWords = signed n := by
  rw [signed_eq]
  by_cases word : IsWord n
  · simp only [inWords, checked, settle, Formed.InRange, word, if_true, ok_bind]
  · simp only [inWords, checked, settle, Formed.InRange, word, if_false, Formed.misfit, error_bind]

theorem inWords_counted (n : Nat) :
    (counted n).inWords = if n < addressLimit then .ok n else .error .addressOverflow := by
  have range : (Formed.counted n).InRange ↔ n < addressLimit := by
    simp only [Formed.InRange]
    omega
  by_cases word : n < addressLimit
  · simp only [inWords, counted, settle, range, word, if_true, ok_bind, Int.toNat_natCast]
  · simp only [inWords, counted, settle, range, word, if_false, Formed.misfit, error_bind]

theorem inWords_of_inRange {x : Exact α} (fits : ∀ n ∈ x.formed, n.InRange) :
    x.inWords = x.result := by
  have settled : settle x.formed = .ok () := by
    generalize x.formed = formed at fits
    induction formed with
    | nil => rfl
    | cons n formed ih =>
        obtain ⟨here, behind⟩ := List.forall_mem_cons.mp fits
        rw [settle, if_pos here, ih behind]
  rw [inWords, settled, ok_bind]

theorem inWords_of_misfit {x : Exact α} {n : Formed} (member : n ∈ x.formed)
    (misfit : ¬ n.InRange) (noOverflow : x.inWords ≠ .error .addressOverflow) :
    x.inWords = .error .invalidAddress := by
  unfold inWords at noOverflow ⊢
  generalize x.formed = formed at member noOverflow ⊢
  induction formed with
  | nil => cases member
  | cons first formed ih =>
      rw [settle] at noOverflow ⊢
      by_cases here : first.InRange
      · rw [if_pos here] at noOverflow ⊢
        refine ih (List.mem_of_ne_of_mem ?_ member) noOverflow
        rintro rfl
        exact misfit here
      · rw [if_neg here] at noOverflow ⊢
        cases first with
        | checked => rfl
        | negated => exact absurd rfl noOverflow
        | counted => exact absurd rfl noOverflow

/-- In words a calculation comes to this, and nothing overflows. -/
structure Yields (x : Exact α) (r : Except EditorError α) : Prop where
  inWords : x.inWords = r
  noOverflow : r ≠ .error .addressOverflow

namespace Yields

theorem ok (a : α) : (pure a : Exact α).Yields (.ok a) := ⟨rfl, nofun⟩

theorem of {r : Except EditorError α} (noOverflow : r ≠ .error .addressOverflow) :
    (Exact.of r).Yields r :=
  ⟨rfl, noOverflow⟩

theorem checked (n : Int) : (Exact.checked n).Yields (signed n) := by
  refine ⟨inWords_checked n, ?_⟩
  rw [signed_eq]
  split <;> nofun

theorem negate {n : Int} (word : IsWord (-n)) : (Exact.negate n).Yields (.ok (-n)) :=
  ⟨inWords_of_inRange (List.forall_mem_singleton.mpr word), nofun⟩

theorem counted {n : Nat} (word : n < addressLimit) : (Exact.counted n).Yields (.ok n) :=
  ⟨(inWords_counted n).trans (if_pos word), nofun⟩

theorem bind {x : Exact α} {r : Except EditorError α} {f : α → Exact β}
    {g : α → Except EditorError β} (h : x.Yields r)
    (rest : ∀ a, r = .ok a → (f a).Yields (g a)) : (x >>= f).Yields (r >>= g) := by
  obtain ⟨rfl, noOverflow⟩ := h
  cases result : x.inWords with
  | ok a =>
      obtain ⟨same, others⟩ := rest a result
      exact ⟨by rw [inWords_bind, result, ok_bind, ok_bind, same], others⟩
  | error e =>
      rw [result] at noOverflow
      refine ⟨by rw [inWords_bind, result, error_bind, error_bind], fun overflow => noOverflow ?_⟩
      cases overflow
      rfl

theorem bind_ok {x : Exact α} {a : α} {f : α → Exact β} {r : Except EditorError β}
    (h : x.Yields (.ok a)) (rest : (f a).Yields r) : (x >>= f).Yields r := by
  refine h.bind (g := fun _ => r) ?_
  rintro _ ⟨⟩
  exact rest

end Yields

end Exact

end LineEditor
