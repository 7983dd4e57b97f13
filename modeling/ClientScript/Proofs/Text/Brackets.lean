import ClientScript.Proofs.Text.Digits
import Mathlib.Data.List.Infix

namespace ClientScript.Text

-- The brackets of a text. Round ones that open behind a certain word are marked.
inductive Bracket
  | left
  | marked
  | right
  | leftCurly
  | rightCurly
  deriving DecidableEq

-- Which brackets of a text are looked at. Round ones always are.
structure Sight where
  curly : Bool
  marks : Bool

def mark : List Char :=
  ['c', 'a', 'l', 'c']

-- Brackets that are in order. No marked ones stand inside of marked ones.
inductive Nest : Bool → List Bracket → Prop
  | nil : Nest inside []
  | round (first : Nest inside xs) (rest : Nest inside ys) :
    Nest inside (.left :: xs ++ .right :: ys)
  | marked (first : Nest true xs) (rest : Nest false ys) :
    Nest false (.marked :: xs ++ .right :: ys)
  | curly (first : Nest inside xs) (rest : Nest inside ys) :
    Nest inside (.leftCurly :: xs ++ .rightCurly :: ys)

namespace Nest

variable {inside : Bool} {xs ys zs : List Bracket}

theorem append (hx : Nest inside xs) (hy : Nest inside ys) : Nest inside (xs ++ ys) := by
  induction hx
  case nil             => exact hy
  case round hf _ _ hi  => simpa using round hf (hi hy)
  case marked hf _ _ hi => simpa using marked hf (hi hy)
  case curly hf _ _ hi  => simpa using curly hf (hi hy)

theorem weaken (h : Nest true xs) : Nest inside xs := by
  generalize hi : true = i at h
  induction h
  case nil            => exact nil
  case round hf hr    => exact round (hf hi) (hr hi)
  case marked         => cases hi
  case curly hf hr    => exact curly (hf hi) (hr hi)

theorem marked_not_mem (h : Nest true xs) : Bracket.marked ∉ xs := by
  generalize hi : true = i at h
  induction h
  case nil            => exact List.not_mem_nil
  case round hf hr    => simp [hf hi, hr hi]
  case marked         => cases hi
  case curly hf hr    => simp [hf hi, hr hi]

def opens (b : Bracket) : Bool :=
  b = .left ∨ b = .marked

theorem countP_eq (h : Nest inside xs) : xs.countP opens = xs.count .right := by
  induction h
  case nil          => rfl
  case round hf hr  => simp [opens, hf, hr] at *; omega
  case marked hf hr => simp [opens, hf, hr] at *; omega
  case curly hf hr  => simp [opens, hf, hr] at *

-- What stands behind a marked bracket, if that is closed.
def Closes (xs : List Bracket) : Prop :=
  ∃ first rest, xs = first ++ .right :: rest ∧ Nest true first

theorem Closes.append (h : Closes xs) (ys : List Bracket) : Closes (xs ++ ys) := by
  obtain ⟨first, rest, rfl, hf⟩ := h
  exact ⟨first, rest ++ ys, by simp, hf⟩

theorem closes_of_append {b : Bracket} (hb : b ≠ .marked)
    (hx : ∀ us vs, xs = us ++ .marked :: vs → Closes vs)
    (hy : ∀ us vs, ys = us ++ .marked :: vs → Closes vs) {us vs : List Bracket}
    (h : xs ++ b :: ys = us ++ .marked :: vs) : Closes vs := by
  rcases List.append_eq_append_iff.mp h with ⟨as, -, h⟩ | ⟨as, ha, h⟩
  case inl =>
    cases as
    case nil       => exact absurd (List.cons.inj h).left hb
    case cons a as => exact hy as vs (List.cons.inj h).right
  case inr =>
    cases as
    case nil       => exact absurd (List.cons.inj h).left.symm hb
    case cons a as =>
      obtain ⟨rfl, rfl⟩ := List.cons.inj h
      exact (hx us as ha).append _

theorem closes (h : Nest false zs) : ∀ xs ys, zs = xs ++ .marked :: ys → Closes ys := by
  generalize hi : false = i at h
  induction h <;> intro xs ys hz
  case nil                     => simp at hz
  case round hf hr             =>
    cases xs <;> simp only [List.nil_append, List.cons_append, List.cons.injEq, reduceCtorEq,
      false_and] at hz
    exact closes_of_append (by decide) (hf hi) (hr hi) hz.right
  case marked first rest ha _ _ hr =>
    cases xs <;> simp only [List.nil_append, List.cons_append, List.cons.injEq, true_and] at hz
    case nil  => exact ⟨first, rest, hz.symm, ha⟩
    case cons =>
      refine closes_of_append (by decide) (fun us vs hu => ?_) (hr hi) hz.right
      exact absurd (hu ▸ by simp) ha.marked_not_mem
  case curly hf hr             =>
    cases xs <;> simp only [List.nil_append, List.cons_append, List.cons.injEq, reduceCtorEq,
      false_and] at hz
    exact closes_of_append (by decide) (hf hi) (hr hi) hz.right

theorem exists_closed (h : Nest false (xs ++ .marked :: (ys ++ .marked :: zs))) :
    ∃ closed, closed <+: ys ∧ closed.countP opens < closed.count .right := by
  obtain ⟨first, rest, he, hf⟩ := h.closes _ _ rfl
  have hc : (first ++ [Bracket.right]).countP opens < (first ++ [Bracket.right]).count .right := by
    simp [hf.countP_eq, opens]
  refine ⟨_, ?_, hc⟩
  rcases List.append_eq_append_iff.mp he with ⟨as, rfl, hs⟩ | ⟨as, rfl, hs⟩
  case inl =>
    cases as
    case nil       => cases hs
    case cons a as =>
      obtain ⟨rfl, -⟩ := List.cons.inj hs
      exact absurd (by simp) hf.marked_not_mem
  case inr =>
    cases as
    case nil       => cases hs
    case cons a as =>
      obtain ⟨rfl, -⟩ := List.cons.inj hs
      exact ⟨as, by simp⟩

end Nest

namespace Sight

variable {v : Sight}

def bracket? (v : Sight) (before : List Char) (c : Char) : Option Bracket :=
  if c = '(' then some (if v.marks ∧ mark <:+ before then .marked else .left)
  else if c = ')' then some .right
  else if v.curly ∧ c = '\x7b' then some .leftCurly
  else if v.curly ∧ c = '\x7d' then some .rightCurly
  else none

-- The brackets of a text in their order. `before` stands in front of the text.
def brackets (v : Sight) (before : List Char) : List Char → List Bracket
  | []      => []
  | c :: cs => (v.bracket? before c).toList ++ v.brackets (before ++ [c]) cs

def Quiet (v : Sight) (cs : List Char) : Prop :=
  ∀ c ∈ cs, c ≠ '(' ∧ c ≠ ')' ∧ (v.curly → c ≠ '\x7b' ∧ c ≠ '\x7d')

end Sight

-- The mark does not begin at the end of the text.
def breaks (cs : List Char) : Bool :=
  cs.getLast?.all fun c => !mark.contains c

-- A text in which no bracket is seen by anyone, and behind which none is marked.
def plain (cs : List Char) : Bool :=
  cs.all (fun c => !(['(', ')', '\x7b', '\x7d'].contains c)) && !mark.isSuffixOf cs

-- A text that keeps what stands around it apart.
def separates (cs : List Char) : Bool :=
  plain cs && breaks cs && !cs.isEmpty

theorem mark_suffix_append_iff {xs ys : List Char} (h : breaks xs) :
    mark <:+ xs ++ ys ↔ mark <:+ ys := by
  refine ⟨fun hm => ?_, fun hm => hm.trans (List.suffix_append xs ys)⟩
  rcases List.suffix_or_suffix_of_suffix hm (List.suffix_append xs ys) with hs | ⟨us, hu⟩
  case inl => exact hs
  case inr =>
    rcases us.eq_nil_or_concat with rfl | ⟨us, c, rfl⟩
    case inl => exact ⟨[], by simpa using hu.symm⟩
    case inr =>
      obtain ⟨ws, hw⟩ := hm
      rw [← hu, ← List.append_assoc] at hw
      obtain rfl := List.append_cancel_right hw
      have hc : c ∈ mark := hu ▸ by simp
      simp [breaks, hc] at h

theorem toList_toByteArray (s : String) :
    s.toByteArray.data.toList = s.toList.flatMap String.utf8EncodeChar := by
  rw [← String.utf8Encode_toList, List.utf8Encode]
  simp

-- Plainness is seen from the bytes of a text, which are computed faster than its characters.
def plainBytes (bs : List UInt8) : Bool :=
  bs.all (fun b => !([40, 41, 123, 125].contains b)) &&
    !(mark.flatMap String.utf8EncodeChar).isSuffixOf bs

theorem plain_of_bytes {s : String} (h : plainBytes s.toByteArray.data.toList) :
    plain s.toList := by
  rw [toList_toByteArray, plainBytes, Bool.and_eq_true] at h
  obtain ⟨ha, hm⟩ := h
  rw [plain, Bool.and_eq_true]
  constructor
  case left  =>
    refine List.all_eq_true.mpr fun c hc => ?_
    have hb (b : UInt8) (h : b ∈ String.utf8EncodeChar c) :=
      List.all_eq_true.mp ha b (List.mem_flatMap.mpr ⟨c, hc, h⟩)
    by_contra hn
    simp only [Bool.not_eq_true', Bool.not_eq_false, List.contains_eq_mem, decide_eq_true_eq,
      List.mem_cons, List.not_mem_nil, or_false] at hn
    rcases hn with rfl | rfl | rfl | rfl
    · exact absurd (hb 40 (by decide)) (by decide)
    · exact absurd (hb 41 (by decide)) (by decide)
    · exact absurd (hb 123 (by decide)) (by decide)
    · exact absurd (hb 125 (by decide)) (by decide)
  case right =>
    simp only [Bool.not_eq_true', ← Bool.not_eq_true, List.isSuffixOf_iff_suffix] at hm ⊢
    exact fun h => hm (List.IsSuffix.flatMap h _)

theorem plain_of_forall {cs : List Char} (h : ∀ c ∈ cs, c ∉ ['(', ')', '\x7b', '\x7d', 'l']) :
    plain cs := by
  rw [plain, Bool.and_eq_true]
  constructor
  case left  =>
    refine List.all_eq_true.mpr fun c hc => ?_
    have := h c hc
    simp_all
  case right =>
    refine Bool.not_eq_true' _ ▸ Bool.eq_false_iff.mpr fun hm => ?_
    obtain ⟨us, rfl⟩ := List.isSuffixOf_iff_suffix.mp hm
    exact h 'l' (by simp [mark]) (by simp)

-- What consists of other characters than brackets and those of the mark keeps what stands around it
-- apart.
theorem separates_of_forall {p : Char → Bool} {cs : List Char}
    (hp : (['(', ')', '\x7b', '\x7d'] ++ mark).all fun c => !p c) (hn : cs ≠ [])
    (h : ∀ c ∈ cs, p c) : separates cs := by
  have other (c : Char) (hc : c ∈ cs) : c ∉ ['(', ')', '\x7b', '\x7d'] ++ mark := fun hm => by
    simpa [h c hc] using List.all_eq_true.mp hp c hm
  have hpl : plain cs := plain_of_forall fun c hc hm => other c hc (by simp_all [mark])
  have hb : breaks cs := by
    have hl := other _ (List.getLast_mem hn)
    simp only [List.mem_append, not_or] at hl
    simp [breaks, List.getLast?_eq_some_getLast hn, hl.right]
  simp [separates, hpl, hb, hn]

theorem plain_of_separates {cs : List Char} (h : separates cs) : plain cs :=
  (Bool.and_eq_true_iff.mp (Bool.and_eq_true_iff.mp h).left).left

theorem separates_toString (n : Nat) : separates (toString n).toList := by
  refine separates_of_forall (p := isIntChar) rfl (by simp) fun c hc => ?_
  have hd : c ∈ Nat.toDigits 10 n := by simpa using hc
  simp [isIntChar, isDigit_of_mem_toDigits hd]

theorem separates_toString_int (n : Int) : separates (toString n).toList :=
  separates_of_forall (p := isIntChar) rfl (toList_toString_int_ne_nil n) fun _ =>
    isIntChar_of_mem_toString

namespace Sight

variable {v : Sight} {xs ys before : List Char}

theorem brackets_append : v.brackets before (xs ++ ys) =
    v.brackets before xs ++ v.brackets (before ++ xs) ys := by
  induction xs generalizing before
  case nil          => simp [brackets]
  case cons x xs hi => simp [brackets, hi]

theorem brackets_of_quiet (h : v.Quiet xs) : v.brackets before xs = [] := by
  induction xs generalizing before
  case nil          => rfl
  case cons x xs hi =>
    obtain ⟨⟨hl, hr, hc⟩, hx⟩ := List.forall_mem_cons.mp h
    have hn : v.bracket? before x = none := by
      rw [bracket?, if_neg hl, if_neg hr, if_neg fun h => (hc h.left).left h.right,
        if_neg fun h => (hc h.left).right h.right]
    rw [brackets, hn, hi hx]
    rfl

theorem brackets_append_of_breaks (h : breaks xs) :
    v.brackets (xs ++ before) ys = v.brackets before ys := by
  induction ys generalizing before
  case nil          => rfl
  case cons y ys hi =>
    have hb : v.bracket? (xs ++ before) y = v.bracket? before y := by
      simp only [bracket?, mark_suffix_append_iff h]
    rw [brackets, brackets, hb, List.append_assoc, hi]

theorem brackets_of_breaks (h : breaks xs) : v.brackets xs ys = v.brackets [] ys := by
  have hn : v.brackets (xs ++ []) ys = v.brackets [] ys := brackets_append_of_breaks h
  rwa [List.append_nil] at hn

theorem exists_prefix_of_brackets {bs : List Bracket} (h : bs <+: v.brackets before xs) :
    ∃ ys, ys <+: xs ∧ v.brackets before ys = bs := by
  induction xs generalizing bs before
  case nil          => exact ⟨[], List.prefix_rfl, (List.prefix_nil.mp h).symm⟩
  case cons x xs hi =>
    rw [brackets] at h
    cases hb : v.bracket? before x <;> rw [hb] at h
    case none   =>
      obtain ⟨ys, hy, rfl⟩ := hi h
      exact ⟨x :: ys, List.cons_prefix_cons.mpr ⟨rfl, hy⟩, by simp [brackets, hb]⟩
    case some b =>
      cases bs
      case nil       => exact ⟨[], List.nil_prefix, rfl⟩
      case cons c bs =>
        obtain ⟨rfl, ht⟩ := List.cons_prefix_cons.mp h
        obtain ⟨ys, hy, rfl⟩ := hi ht
        exact ⟨x :: ys, List.cons_prefix_cons.mpr ⟨rfl, hy⟩, by simp [brackets, hb]⟩

theorem countP_brackets : (v.brackets before xs).countP Nest.opens = xs.count '(' := by
  induction xs generalizing before
  case nil          => rfl
  case cons x xs hi =>
    rw [brackets, List.countP_append, hi, List.count_cons, Nat.add_comm]
    congr 1
    rw [bracket?]
    split_ifs <;> simp_all [Nest.opens]

theorem count_brackets : (v.brackets before xs).count .right = xs.count ')' := by
  induction xs generalizing before
  case nil          => rfl
  case cons x xs hi =>
    rw [brackets, List.count_append, hi, List.count_cons, Nat.add_comm]
    congr 1
    rw [bracket?]
    split_ifs <;> simp_all

theorem quiet_mark : v.Quiet mark := by
  simp [Quiet, mark]

theorem brackets_mark (hv : v.marks) :
    v.brackets before (xs ++ mark ++ '(' :: ys) =
      v.brackets before xs ++ .marked :: v.brackets (before ++ (xs ++ mark) ++ ['(']) ys := by
  have hm : mark <:+ before ++ (xs ++ mark) :=
    (List.suffix_append xs mark).trans (List.suffix_append before _)
  have hb : v.bracket? (before ++ (xs ++ mark)) '(' = some .marked := by
    rw [bracket?, if_pos rfl, if_pos ⟨hv, hm⟩]
  rw [brackets_append, brackets_append, brackets_of_quiet quiet_mark, List.append_nil, brackets, hb]
  rfl

theorem exists_closed {a b c : List Char} (hv : v.marks)
    (h : Nest false (v.brackets [] (a ++ mark ++ '(' :: (b ++ mark ++ '(' :: c)))) :
    ∃ closed, closed <+: b ∧ closed.count '(' < closed.count ')' := by
  rw [brackets_mark hv, brackets_mark hv] at h
  obtain ⟨bs, hb, hc⟩ := h.exists_closed
  obtain ⟨closed, hp, rfl⟩ := exists_prefix_of_brackets hb
  rw [countP_brackets, count_brackets] at hc
  exact ⟨closed, hp, hc⟩

-- A text whose brackets are in order, and behind which a bracket would not be marked.
structure Calm (v : Sight) (inside : Bool) (s : String) : Prop where
  nest : Nest inside (v.brackets [] s.toList)
  last : v.marks → ¬mark <:+ s.toList

theorem not_mark_suffix_of_breaks (h : breaks xs) : ¬mark <:+ xs := by
  rintro ⟨us, rfl⟩
  simp [breaks, mark] at h

theorem breaks_append (hy : breaks ys) (hn : ys ≠ []) : breaks (xs ++ ys) := by
  rwa [breaks, List.getLast?_append_of_ne_nil _ hn]

theorem breaks_append_of_separates (h : separates ys) : breaks (xs ++ ys) := by
  simp only [separates, Bool.and_eq_true, Bool.not_eq_true', List.isEmpty_eq_false_iff] at h
  exact breaks_append h.left.right h.right

theorem quiet_append (hx : v.Quiet xs) (hy : v.Quiet ys) : v.Quiet (xs ++ ys) :=
  List.forall_mem_append.mpr ⟨hx, hy⟩

theorem quiet_of_plain (h : plain xs) : v.Quiet xs := by
  intro c hc
  have hp := List.all_eq_true.mp (Bool.and_eq_true_iff.mp h).left c hc
  simp_all

theorem not_mark_suffix_of_plain (h : plain xs) : ¬mark <:+ xs := by
  intro hm
  simp [plain, List.isSuffixOf_iff_suffix.mpr hm] at h

namespace Calm

variable {inside : Bool} {s t : String}

theorem of_quiet (h : v.Quiet s.toList) (hm : v.marks → ¬mark <:+ s.toList) : v.Calm inside s where
  nest := brackets_of_quiet h ▸ .nil
  last := hm

theorem of_plain (h : plain s.toList) : v.Calm inside s :=
  of_quiet (quiet_of_plain h) fun _ => not_mark_suffix_of_plain h

theorem of_separates (h : separates s.toList) : v.Calm inside s :=
  of_plain (plain_of_separates h)

theorem append (hs : v.Calm inside s) (hb : breaks s.toList) (ht : v.Calm inside t) :
    v.Calm inside (s ++ t) where
  nest := by
    rw [String.toList_append, brackets_append, List.nil_append, brackets_of_breaks hb]
    exact hs.nest.append ht.nest
  last hv := by
    rw [String.toList_append, mark_suffix_append_iff hb]
    exact ht.last hv

theorem of_nest (hs : Nest inside (v.brackets [] s.toList)) (ht : v.Quiet t.toList)
    (hb : breaks t.toList) (hn : t.toList ≠ []) : v.Calm inside (s ++ t) where
  nest := by
    rw [String.toList_append, brackets_append, brackets_of_quiet ht, List.append_nil]
    exact hs
  last _ := by
    rw [String.toList_append]
    exact not_mark_suffix_of_breaks (breaks_append hb hn)

theorem then_separator (hs : v.Calm inside s) (ht : separates t.toList) : v.Calm inside (s ++ t) := by
  have hq := quiet_of_plain (v := v) (plain_of_separates ht)
  simp only [separates, Bool.and_eq_true, Bool.not_eq_true', List.isEmpty_eq_false_iff] at ht
  exact of_nest hs.nest hq ht.left.right ht.right

theorem behind (hs : separates s.toList) (ht : v.Calm inside t) : v.Calm inside (s ++ t) := by
  refine append (of_separates hs) ?_ ht
  have hb : breaks ([] ++ s.toList) := breaks_append_of_separates hs
  rwa [List.nil_append] at hb

theorem between (hs : v.Calm inside s) (hm : separates m.toList) (ht : v.Calm inside t) :
    v.Calm inside (s ++ m ++ t) := by
  refine (hs.then_separator hm).append ?_ ht
  rw [String.toList_append]
  exact breaks_append_of_separates hm

-- A text with a bracket around a part of it. Behind the bracket that opens it that part is looked at as
-- if it stood alone.
theorem of_enclosed {a b : Bracket} {l r : Char} (hs : s.toList = xs ++ l :: (ys ++ [r]))
    (hl : v.bracket? xs l = some a) (hr : ∀ before, v.bracket? before r = some b) (hlm : l ∉ mark)
    (hrm : r ∉ mark) (h : Nest inside (v.brackets [] xs ++ (a :: v.brackets [] ys ++ [b]))) :
    v.Calm inside s where
  nest := by
    have hb : breaks (xs ++ [l]) := breaks_append (by simp [breaks, hlm]) (List.cons_ne_nil _ _)
    rw [hs, brackets_append, brackets, List.nil_append, hl, brackets_append, brackets_of_breaks hb,
      brackets, hr]
    exact h
  last _ := by
    rw [hs, List.append_cons, ← List.append_assoc]
    exact not_mark_suffix_of_breaks (breaks_append (by simp [breaks, hrm]) (List.cons_ne_nil _ _))

theorem round (hs : v.Calm inside s) (ht : v.Calm inside t) :
    v.Calm inside (s ++ "(" ++ t ++ ")") := by
  have hl : v.bracket? s.toList '(' = some .left := by
    rw [bracket?, if_pos rfl, if_neg fun h => hs.last h.left h.right]
  have hr (before : List Char) : v.bracket? before ')' = some .right := by simp [bracket?]
  have hn : (s ++ "(" ++ t ++ ")").toList = s.toList ++ '(' :: (t.toList ++ [')']) := by simp
  exact of_enclosed hn hl hr (by decide) (by decide) (hs.nest.append (.round ht.nest .nil))

theorem marked (ht : v.Calm true t) : v.Calm false ("calc" ++ "(" ++ t ++ ")") := by
  have hs : ("calc" ++ "(" ++ t ++ ")").toList = mark ++ '(' :: (t.toList ++ [')']) := by simp [mark]
  have hr (before : List Char) : v.bracket? before ')' = some .right := by simp [bracket?]
  by_cases hv : v.marks
  case pos =>
    have hl : v.bracket? mark '(' = some .marked := by simp [bracket?, hv]
    refine of_enclosed hs hl hr (by decide) (by decide) ?_
    rw [brackets_of_quiet quiet_mark]
    exact .marked ht.nest .nil
  case neg =>
    have hl : v.bracket? mark '(' = some .left := by simp [bracket?, hv]
    refine of_enclosed hs hl hr (by decide) (by decide) ?_
    rw [brackets_of_quiet quiet_mark]
    exact .round ht.nest.weaken .nil

theorem curly (hs : v.Calm inside s) (ht : v.Calm inside t) :
    v.Calm inside (s ++ "\x7b" ++ t ++ "\x7d") := by
  by_cases hv : v.curly
  case pos =>
    have hl : v.bracket? s.toList '\x7b' = some .leftCurly := by simp [bracket?, hv]
    have hr (before : List Char) : v.bracket? before '\x7d' = some .rightCurly := by
      simp [bracket?, hv]
    have hn : (s ++ "\x7b" ++ t ++ "\x7d").toList = s.toList ++ '\x7b' :: (t.toList ++ ['\x7d']) := by
      simp
    exact of_enclosed hn hl hr (by decide) (by decide) (hs.nest.append (.curly ht.nest .nil))
  case neg =>
    have hl : v.Quiet "\x7b".toList := by simp [Quiet, hv]
    have hr : v.Quiet "\x7d".toList := by simp [Quiet, hv]
    have hb : breaks (s ++ "\x7b").toList := by
      rw [String.toList_append]
      exact breaks_append rfl (by decide)
    exact of_nest ((of_nest hs.nest hl rfl (by decide)).append hb ht).nest hr rfl (by decide)

theorem intercalate {ts : List String} (h : ∀ t ∈ ts, v.Calm inside t) :
    v.Calm inside (", ".intercalate ts) := by
  induction ts
  case nil          => exact of_plain rfl
  case cons t ts hi =>
    obtain ⟨ht, hts⟩ := List.forall_mem_cons.mp h
    cases ts
    case nil       => simpa using ht
    case cons u us =>
      rw [String.intercalate_cons_cons]
      exact ht.between rfl (hi hts)

end Calm
end Sight
end ClientScript.Text
