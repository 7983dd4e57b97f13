import Mathlib.Data.List.Forall2
import Mathlib.Tactic.Common

namespace ClientScript

def Succeeds (x : Except ε α) : Prop :=
  ∃ a, x = .ok a

variable {x : Except ε α} {f : α → Except ε β} {p : Prop}

@[simp]
theorem succeeds_ok (a : α) : Succeeds (.ok a : Except ε α) :=
  ⟨a, rfl⟩

@[simp]
theorem succeeds_pure (a : α) : Succeeds (pure a : Except ε α) :=
  ⟨a, rfl⟩

@[simp]
theorem not_succeeds_error (e : ε) : ¬Succeeds (.error e : Except ε α) :=
  fun ⟨_, h⟩ => nomatch h

@[simp]
theorem not_succeeds_throw (e : ε) : ¬Succeeds (throw e : Except ε α) :=
  not_succeeds_error e

@[simp]
theorem ok_bind (a : α) : (Except.ok a : Except ε α) >>= f = f a :=
  rfl

@[simp]
theorem error_bind (e : ε) : (Except.error e : Except ε α) >>= f = .error e :=
  rfl

theorem bind_eq_ok_iff : x >>= f = .ok b ↔ ∃ a, x = .ok a ∧ f a = .ok b := by
  cases x <;> simp

theorem succeeds_bind_iff : Succeeds (x >>= f) ↔ ∃ a, x = .ok a ∧ Succeeds (f a) := by
  cases x <;> simp

-- Where the rest of a computation depends on a value, its success mostly does not.
theorem succeeds_bind (h : ∀ a, Succeeds (f a) ↔ p) : Succeeds (x >>= f) ↔ Succeeds x ∧ p := by
  cases x
  case error e => exact iff_of_false (not_succeeds_error e) (not_succeeds_error e ·.left)
  case ok a    => exact (h a).trans (and_iff_right (succeeds_ok a)).symm

@[simp]
theorem succeeds_bind_pure {f : α → β} : Succeeds (x >>= fun a => pure (f a)) ↔ Succeeds x := by
  rw [succeeds_bind fun _ => iff_true_intro (succeeds_pure _), and_true]

@[simp]
theorem succeeds_map {f : α → β} : Succeeds (f <$> x) ↔ Succeeds x := by
  cases x
  case error e => exact iff_of_false (not_succeeds_error e) (not_succeeds_error e)
  case ok a    => exact iff_of_true (succeeds_ok (f a)) (succeeds_ok a)

theorem succeeds_mapM (g : α → Except ε β) (as : List α) :
    Succeeds (as.mapM g) ↔ ∀ a ∈ as, Succeeds (g a) := by
  induction as
  case nil => simp
  case cons a as hi =>
    rw [List.mapM_cons, succeeds_bind fun _ => succeeds_bind_pure, hi]
    simp

theorem mapM_eq_ok_iff {g : α → Except ε β} {as : List α} {bs : List β} :
    as.mapM g = .ok bs ↔ List.Forall₂ (fun a b => g a = .ok b) as bs := by
  induction as generalizing bs
  case nil          =>
    rw [List.mapM_nil, List.forall₂_nil_left_iff]
    exact ⟨fun h => (Except.ok.inj h).symm, fun h => h ▸ rfl⟩
  case cons a as hi =>
    rw [List.mapM_cons, bind_eq_ok_iff, List.forall₂_cons_left_iff]
    simp only [bind_eq_ok_iff, hi]
    constructor
    case mp  =>
      rintro ⟨b, hb, bs, hs, h⟩
      exact ⟨b, bs, hb, hs, (Except.ok.inj h).symm⟩
    case mpr =>
      rintro ⟨b, bs, hb, hs, rfl⟩
      exact ⟨b, hb, bs, hs, rfl⟩

def error? : Except ε α → Option ε
  | .ok _    => none
  | .error e => some e

theorem error?_eq_some_iff : error? x = some e ↔ x = .error e := by
  cases x <;> simp [error?]

theorem error?_eq_none_iff : error? x = none ↔ Succeeds x := by
  cases x <;> simp [error?]

theorem error?_mapM {g : α → Except ε β} {as : List α} :
    error? (as.mapM g) = as.findSome? fun a => error? (g a) := by
  induction as
  case nil          => rfl
  case cons a as hi =>
    rw [List.mapM_cons, List.findSome?_cons, ← hi]
    cases g a
    case error e => rfl
    case ok b    =>
      rw [ok_bind]
      cases as.mapM g <;> rfl

theorem mapM_eq_error_iff {g : α → Except ε β} {as : List α} {e : ε} : as.mapM g = .error e ↔
    ∃ before a after, as = before ++ a :: after ∧ (∀ b ∈ before, Succeeds (g b)) ∧
      g a = .error e := by
  rw [← error?_eq_some_iff, error?_mapM, List.findSome?_eq_some_iff]
  simp only [error?_eq_some_iff, error?_eq_none_iff, and_comm]

-- A computation that fails for no other reasons than those that `p` holds of.
def FailsOnly (p : ε → Prop) (x : Except ε α) : Prop :=
  ∀ e, x = .error e → p e

namespace FailsOnly

variable {p q : ε → Prop}

theorem ok (a : α) : FailsOnly p (.ok a) :=
  fun _ h => nomatch h

theorem pure (a : α) : FailsOnly p (Pure.pure a) :=
  ok a

theorem error {e : ε} (h : p e) : FailsOnly p (.error e : Except ε α)
  | _, rfl => h

theorem mono (hx : FailsOnly p x) (h : ∀ e, p e → q e) : FailsOnly q x :=
  fun e he => h e (hx e he)

theorem bind (hx : FailsOnly p x) (hf : ∀ a, x = .ok a → FailsOnly p (f a)) :
    FailsOnly p (x >>= f) := by
  cases x
  case error e => exact error (hx e rfl)
  case ok a    => exact hf a rfl

theorem bind_pure {f : α → β} (hx : FailsOnly p x) : FailsOnly p (x >>= fun a => Pure.pure (f a)) :=
  hx.bind fun _ _ => pure _

theorem mapM {g : α → Except ε β} {as : List α} (h : ∀ a ∈ as, FailsOnly p (g a)) :
    FailsOnly p (as.mapM g) := by
  induction as
  case nil => exact pure []
  case cons a as hi =>
    have ⟨ha, has⟩ := List.forall_mem_cons.mp h
    rw [List.mapM_cons]
    exact ha.bind fun _ _ => (hi has).bind_pure

end FailsOnly

-- Two computations that fail for reasons that `q` relates, or give values that `r` relates.
inductive Alike (q : ε → ε → Prop) (r : α → β → Prop) : Except ε α → Except ε β → Prop
  | ok {a b} (h : r a b) : Alike q r (.ok a) (.ok b)
  | error {e e'} (h : q e e') : Alike q r (.error e) (.error e')

namespace Alike

variable {y : Except ε γ} {q : ε → ε → Prop} {r : α → γ → Prop} {r' : β → δ → Prop}
variable {g : γ → Except ε δ}

theorem refl (hq : ∀ e, q e e) : (x : Except ε α) → Alike q Eq x x
  | .ok _    => .ok rfl
  | .error e => .error (hq e)

theorem mono {p : ε → ε → Prop} {s : α → γ → Prop} (h : Alike q r x y)
    (hq : ∀ e e', q e e' → p e e') (hr : ∀ a c, r a c → s a c) : Alike p s x y := by
  cases h
  case ok h    => exact .ok (hr _ _ h)
  case error h => exact .error (hq _ _ h)

theorem bind (h : Alike q r x y) (hf : ∀ a c, r a c → Alike q r' (f a) (g c)) :
    Alike q r' (x >>= f) (y >>= g) := by
  cases h
  case ok h    => exact hf _ _ h
  case error h => exact .error h

theorem map {f : α → β} {g : γ → δ} (h : Alike q r x y) (hf : ∀ a c, r a c → r' (f a) (g c)) :
    Alike q r' (x.map f) (y.map g) := by
  cases h
  case ok h    => exact .ok (hf _ _ h)
  case error h => exact .error h

theorem bind_eq {y : Except ε α} {g : α → Except ε δ} (h : Alike q Eq x y)
    (hf : ∀ a, Alike q r' (f a) (g a)) : Alike q r' (x >>= f) (y >>= g) :=
  h.bind fun a _ ha => ha ▸ hf a

theorem mapM {f : α → Except ε β} {g : γ → Except ε δ} {as : List α} {cs : List γ}
    (h : List.Forall₂ (fun a c => Alike q r' (f a) (g c)) as cs) :
    Alike q (List.Forall₂ r') (as.mapM f) (cs.mapM g) := by
  induction h
  case nil         => exact .ok .nil
  case cons h _ hi =>
    rw [List.mapM_cons, List.mapM_cons]
    exact h.bind fun _ _ hb => hi.bind fun _ _ hbs => .ok (.cons hb hbs)

theorem succeeds_iff (h : Alike q r x y) : Succeeds x ↔ Succeeds y := by
  cases h <;> simp

theorem eq_error_iff (h : Alike Eq r x y) : x = .error e ↔ y = .error e := by
  cases h
  case ok h    => simp
  case error h => simp [h]

theorem eq_ok_iff {y : Except ε α} (h : Alike q Eq x y) : x = .ok a ↔ y = .ok a := by
  cases h
  case ok h    => rw [h]
  case error h => simp

theorem eq {y : Except ε α} (h : Alike Eq Eq x y) : x = y := by
  cases h
  case ok h    => rw [h]
  case error h => rw [h]

end Alike

-- Lists that go together are both empty, or they end with what goes together.
theorem eq_nil_or_concat_of_forall₂ {r : α → β → Prop} {as : List α} {bs : List β}
    (h : List.Forall₂ r as bs) :
    as = [] ∧ bs = [] ∨ ∃ front front' a b, as = front ++ [a] ∧ bs = front' ++ [b] ∧
      List.Forall₂ r front front' ∧ r a b := by
  rcases as.eq_nil_or_concat with rfl | ⟨front, a, rfl⟩
  case inl => exact .inl ⟨rfl, List.forall₂_nil_left_iff.mp h⟩
  case inr =>
    rcases bs.eq_nil_or_concat with rfl | ⟨front', b, rfl⟩
    case inl => simpa using h.length_eq
    case inr =>
      have h' := List.forall₂_reverse_iff.mpr h
      simp only [List.concat_eq_append, List.reverse_append, List.reverse_cons, List.reverse_nil,
        List.nil_append, List.singleton_append, List.forall₂_cons, List.forall₂_reverse_iff] at h'
      exact .inr ⟨front, front', a, b, List.concat_eq_append, List.concat_eq_append, h'.right,
        h'.left⟩

-- A value, unless something is wrong. Then the first fault is the reason why there is none.
def barring (faults : List ε) (a : α) : Except ε α :=
  match faults with
  | []     => .ok a
  | e :: _ => .error e

theorem barring_append {es fs : List ε} {a : α} :
    barring (es ++ fs) a = barring es () >>= fun _ => barring fs a := by
  cases es <;> rfl

theorem barring_eq_ok_iff {es : List ε} {a b : α} : barring es a = .ok b ↔ es = [] ∧ a = b := by
  cases es <;> simp [barring]

theorem barring_eq_error_iff {es : List ε} {a : α} :
    barring es a = .error e ↔ es.head? = some e := by
  cases es <;> simp [barring]

end ClientScript
