import Mathlib.Data.List.TakeWhile

namespace ClientScript.Text

variable {p q : α → Bool} {as bs r s : List α}

-- What follows a piece of a list does not go on with what the piece is made of.
def Ends (p : α → Bool) (rest : List α) : Prop :=
  ∀ a ∈ rest.head?, p a = false

namespace Ends

theorem nil : Ends p [] :=
  fun _ h => nomatch h

theorem cons (h : p a = false) : Ends p (a :: r) :=
  fun _ ha => Option.some.inj ha ▸ h

theorem takeWhile_append (h : ∀ a ∈ as, p a) (hr : Ends p r) : (as ++ r).takeWhile p = as := by
  rw [List.takeWhile_append_of_pos h]
  cases r
  case nil      => simp
  case cons a r => simp [hr a rfl]

theorem dropWhile_append (h : ∀ a ∈ as, p a) (hr : Ends p r) : (as ++ r).dropWhile p = r := by
  rw [List.dropWhile_append_of_pos h]
  cases r
  case nil      => simp
  case cons a r => simp [hr a rfl]

theorem append_inj (ha : ∀ a ∈ as, p a) (hb : ∀ b ∈ bs, p b) (hr : Ends p r) (hs : Ends p s)
    (h : as ++ r = bs ++ s) : as = bs ∧ r = s := by
  constructor
  case left  => rw [← hr.takeWhile_append ha, h, hs.takeWhile_append hb]
  case right => rw [← hr.dropWhile_append ha, h, hs.dropWhile_append hb]

end Ends

section

variable {p : Char → Bool} {f : α → List Char} {g : α → β} {as bs : List α} {r s : List Char}

-- The text of a value can be told from what follows it. It says all about the value but what `g`
-- forgets.
def Separates (p : Char → Bool) (f : α → List Char) (g : α → β) (a : α) : Prop :=
  ∀ b r s, Ends p r → Ends p s → f a ++ r = f b ++ s → g a = g b ∧ r = s

def commas (f : α → List Char) (as : List α) : List Char :=
  [',', ' '].intercalate (as.map f)

theorem commas_singleton : commas f [a] = f a := by
  simp [commas]

theorem commas_cons_cons : commas f (a :: b :: as) = f a ++ ',' :: ' ' :: commas f (b :: as) := by
  simp [commas]

theorem exists_commas_eq_cons (as : List α) (h : f a = c :: cs) :
    ∃ cs, commas f (a :: as) = c :: cs :=
  ⟨_, by rw [commas, List.map_cons, h, List.intercalate_cons_cons_left]⟩

theorem commas_inj (hp : p ',' = false) (h : ∀ x ∈ a :: as, Separates p f g x)
    (hr : Ends p r ∧ Ends (· = ',') r) (hs : Ends p s ∧ Ends (· = ',') s)
    (he : commas f (a :: as) ++ r = commas f (b :: bs) ++ s) :
    (a :: as).map g = (b :: bs).map g ∧ r = s := by
  have ⟨ha, has⟩ := List.forall_mem_cons.mp h
  induction as generalizing a b bs
  case nil =>
    rw [commas_singleton] at he
    cases bs
    case nil =>
      rw [commas_singleton] at he
      have ⟨hg, hrs⟩ := ha b r s hr.left hs.left he
      exact ⟨by rw [List.map_singleton, hg, List.map_singleton], hrs⟩
    case cons b' bs =>
      rw [commas_cons_cons, List.append_assoc] at he
      have ⟨_, hrs⟩ := ha b r _ hr.left (.cons hp) he
      exact absurd (hr.right ',' (by rw [hrs]; rfl)) (by simp)
  case cons a' as hi =>
    rw [commas_cons_cons, List.append_assoc] at he
    cases bs
    case nil =>
      rw [commas_singleton] at he
      have ⟨_, hrs⟩ := ha b _ s (.cons hp) hs.left he
      exact absurd (hs.right ',' (by rw [← hrs]; rfl)) (by simp)
    case cons b' bs =>
      rw [commas_cons_cons, List.append_assoc] at he
      have ⟨hg, hrs⟩ := ha b _ _ (.cons hp) (.cons hp) he
      have ⟨ha', has'⟩ := List.forall_mem_cons.mp has
      have hrs := (List.cons.inj (List.cons.inj hrs).right).right
      have ⟨hg', hrs'⟩ := hi has hrs ha' has'
      exact ⟨List.cons_eq_cons.mpr ⟨hg, hg'⟩, hrs'⟩

theorem bracketed_inj (hp : p ',' = false) (hc : p close = false) (hn : close ≠ ',')
    (hf : ∀ a, ∃ c cs, f a = c :: cs ∧ c ≠ close) (h : ∀ x ∈ as, Separates p f g x)
    (he : commas f as ++ close :: r = commas f bs ++ close :: s) :
    as.map g = bs.map g ∧ r = s := by
  have ends : ∀ r, Ends p (close :: r) ∧ Ends (· = ',') (close :: r) :=
    fun r => ⟨.cons hc, .cons (by simp [hn])⟩
  cases as <;> cases bs
  case nil.nil => exact ⟨rfl, (List.cons.inj he).right⟩
  case nil.cons b bs =>
    have ⟨c, cs, hb, hc⟩ := hf b
    have ⟨_, hb⟩ := exists_commas_eq_cons bs hb
    rw [hb] at he
    exact absurd (List.cons.inj he).left.symm hc
  case cons.nil a as =>
    have ⟨c, cs, ha, hc⟩ := hf a
    have ⟨_, ha⟩ := exists_commas_eq_cons as ha
    rw [ha] at he
    exact absurd (List.cons.inj he).left hc
  case cons.cons a as b bs =>
    have ⟨hg, hrs⟩ := commas_inj hp h (ends r) (ends s) he
    exact ⟨hg, (List.cons.inj hrs).right⟩

end

end ClientScript.Text
