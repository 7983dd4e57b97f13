import ClientScript.Proofs.Emission.Hook
import ClientScript.Proofs.Occurrence

namespace ClientScript

open List (Forall₂)
open Expression (Reads)

-- What stands around one argument of an operation, or around one element of a compound.
inductive Frame
  | argument (code : Opcode) (types : List Ty) (before after : List Expression)
  | element (before after : List Expression)

namespace Frame

def fill (f : Frame) (e : Expression) : Expression :=
  match f with
  | argument code types before after => .op code types (before ++ e :: after)
  | element before after             => .compound (before ++ e :: after)

def isCalc : Frame → Bool
  | argument code .. => code.isCalc
  | element ..       => false

-- Between a missing callback and the component nothing is written.
inductive Silent : Frame → Prop
  | between {c : Constant} {target : Opcode.HookTarget} (hook : code.hook? = some target)
    (callee : c.int? = some (-1)) :
    Silent (argument code types (.const c :: before) (after ++ [component]))

end Frame

def Expression.inside (path : List Frame) (e : Expression) : Expression :=
  path.foldr Frame.fill e

-- The text of something around `d` has the text of `d` at one place, and any other expression that is no
-- constant can stand there instead.
def Hole (names : Names) (inCalc : Bool) (around : Expression → String → Prop) (d : Expression)
    (text : String) : Prop :=
  ∃ front s back, d.Reads names inCalc s ∧ text = front ++ s ++ back ∧
    ∀ d' s', d'.constant? = none → d'.Reads names inCalc s' → around d' (front ++ s' ++ back)

variable {names : Names} {inCalc : Bool} {d : Expression} {text : String}
variable {before after : List Expression}

namespace Hole

variable {p q : Expression → String → Prop}

theorem self (h : d.Reads names inCalc text) : Hole names inCalc (Reads names inCalc) d text :=
  ⟨"", text, "", h, by simp, fun _ _ _ h => by simpa using h⟩

theorem wrap (left right : String) {s : String} (h : Hole names inCalc p d s)
    (ht : text = left ++ s ++ right)
    (hp : ∀ d' t, d'.constant? = none → p d' t → q d' (left ++ t ++ right)) :
    Hole names inCalc q d text := by
  obtain ⟨front, u, back, hu, rfl, hr⟩ := h
  refine ⟨left ++ front, u, back ++ right, hu, by simp [ht, String.append_assoc],
    fun d' t hd hd' => ?_⟩
  simpa [String.append_assoc] using hp d' _ hd (hr d' t hd hd')

end Hole

theorem enclosed_of_ne_nil {left right : String} {ts : List String} (h : ts ≠ []) :
    enclosed left right ts = left ++ ", ".intercalate ts ++ right := by
  rw [enclosed, if_neg (by simpa using h)]

theorem exists_intercalate_eq (us vs : List String) :
    ∃ front back, ∀ s, ", ".intercalate (us ++ s :: vs) = front ++ s ++ back := by
  have hv : ∃ back, ∀ s, ", ".intercalate (s :: vs) = s ++ back := by
    cases vs
    case nil  => exact ⟨"", by simp⟩
    case cons => exact ⟨_, fun s => by rw [String.intercalate_cons_cons, String.append_assoc]⟩
  obtain ⟨back, hv⟩ := hv
  cases us
  case nil       => exact ⟨"", back, by simpa using hv⟩
  case cons u us =>
    refine ⟨", ".intercalate (u :: us) ++ ", ", back, fun s => ?_⟩
    rw [String.intercalate_append_of_ne_nil (by simp) (by simp), hv, String.append_assoc,
      String.append_assoc, String.append_assoc]

theorem exists_forall₂_hole {r : Expression → String → Prop} {ts : List String}
    (h : Forall₂ r (before ++ d :: after) ts) :
    ∃ us s vs, ts = us ++ s :: vs ∧ r d s ∧
      ∀ d' s', r d' s' → Forall₂ r (before ++ d' :: after) (us ++ s' :: vs) := by
  induction before generalizing ts
  case nil          =>
    cases h
    case cons t ts ht hts => exact ⟨[], t, ts, rfl, ht, fun _ _ h => .cons h hts⟩
  case cons e es hi =>
    cases h
    case cons t ts ht hts =>
      obtain ⟨us, s, vs, rfl, hs, hr⟩ := hi hts
      exact ⟨t :: us, s, vs, rfl, hs, fun d' s' h => .cons ht (hr d' s' h)⟩

theorem Hole.list {f : List String → String} {ts : List String}
    (h : Forall₂ (Reads names inCalc) (before ++ d :: after) ts)
    (hf : ∀ us vs, ∃ front back, ∀ s, f (us ++ s :: vs) = front ++ s ++ back) :
    Hole names inCalc
      (fun d' t => ∃ ts, Forall₂ (Reads names inCalc) (before ++ d' :: after) ts ∧ t = f ts) d
      (f ts) := by
  obtain ⟨us, s, vs, rfl, hs, hr⟩ := exists_forall₂_hole h
  obtain ⟨front, back, hf⟩ := hf us vs
  exact ⟨front, s, back, hs, hf s, fun d' s' _ h => ⟨_, hr d' s' h, (hf s').symm⟩⟩

theorem exists_enclosed_eq (left right : String) (us vs : List String) :
    ∃ front back, ∀ s, enclosed left right (us ++ s :: vs) = front ++ s ++ back := by
  obtain ⟨front, back, h⟩ := exists_intercalate_eq us vs
  refine ⟨left ++ front, back ++ right, fun s => ?_⟩
  rw [enclosed_of_ne_nil (by simp), h]
  simp only [String.append_assoc]

theorem append_cons_eq_append_iff {xs ys : List Expression} :
    before ++ d :: after = xs ++ ys ↔
      (∃ rest, xs = before ++ d :: rest ∧ after = rest ++ ys) ∨
        ∃ front, before = xs ++ front ∧ ys = front ++ d :: after := by
  rw [List.append_eq_append_iff]
  constructor
  case mp  =>
    rintro (⟨r, hx, hy⟩ | ⟨f, hb, hy⟩)
    case inl =>
      rcases List.cons_eq_append_iff.mp hy with ⟨rfl, rfl⟩ | ⟨r, rfl, rfl⟩
      case inl => exact .inr ⟨[], by simp [hx], rfl⟩
      case inr => exact .inl ⟨r, hx, rfl⟩
    case inr => exact .inr ⟨f, hb, hy⟩
  case mpr =>
    rintro (⟨r, hx, rfl⟩ | ⟨f, hb, hy⟩)
    case inl => exact .inl ⟨d :: r, hx, rfl⟩
    case inr => exact .inr ⟨f, hb, hy⟩

theorem eq_of_append_cons_eq_concat {es : List Expression} {c : Constant} (hd : d.constant? = none)
    (h : before ++ d :: after = es ++ [.const c]) :
    ∃ rest, after = rest ++ [.const c] ∧ es = before ++ d :: rest := by
  rcases append_cons_eq_append_iff.mp h with ⟨rest, he, ha⟩ | ⟨front, _, h⟩
  case inl => exact ⟨rest, ha, he⟩
  case inr =>
    have hm : d ∈ [Expression.const c] := h ▸ by simp
    obtain rfl := List.mem_singleton.mp hm
    cases hd

theorem CallbackReads.hole (h : CallbackReads names inCalc (before ++ d :: after) text)
    (hd : d.constant? = none) :
    (∃ (c : Constant) (rest : List Expression), before = .const c :: rest ∧ c.int? = some (-1)) ∨
      Hole names inCalc (fun d' => CallbackReads names inCalc (before ++ d' :: after)) d text := by
  cases before
  case nil           => cases h <;> cases hd
  case cons b before =>
    generalize he : b :: before ++ d :: after = es at h
    cases h
    case null c _ hc                                                  =>
      obtain ⟨rfl, -⟩ := List.cons.inj he
      exact .inl ⟨c, before, rfl, hc⟩
    case call c k id n arguments triggers as ts hc hid hk hn ha ht    =>
      obtain ⟨rfl, hs⟩ := List.cons.inj he
      obtain ⟨after, rfl, hm⟩ := eq_of_append_cons_eq_concat hd hs
      refine .inr ?_
      rcases append_cons_eq_append_iff.mp hm.symm with ⟨rest, rfl, rfl⟩ | ⟨front, rfl, rfl⟩
      case inl =>
        refine (Hole.list ha exists_intercalate_eq).wrap
          ("\"" ++ names.callee "[clientscript," id ++ "(")
          (")" ++ enclosed "\x7b" "\x7d" ts ++ "\"") (by simp only [String.append_assoc]) ?_
        rintro d' _ - ⟨as', ha', rfl⟩
        simpa [String.append_assoc] using CallbackReads.call (k := k) hc hid hk hn ha' ht
      case inr =>
        refine (Hole.list ht (exists_enclosed_eq "\x7b" "\x7d")).wrap
          ("\"" ++ names.callee "[clientscript," id ++ "(" ++ ", ".intercalate as ++ ")") "\""
          rfl ?_
        rintro d' _ - ⟨ts', ht', rfl⟩
        have hn : n.toInt = (front ++ d' :: after).length := by simpa using hn
        simpa [String.append_assoc] using CallbackReads.call (k := k) hc hid hk hn ha ht'

theorem eq_of_append_cons_eq_cons {es : List Expression} {c : Constant} (hd : d.constant? = none)
    (h : before ++ d :: after = .const c :: es) :
    ∃ rest, before = .const c :: rest ∧ es = rest ++ d :: after := by
  cases before
  case nil           =>
    cases h
    cases hd
  case cons b before =>
    obtain ⟨rfl, hb⟩ := List.cons.inj h
    exact ⟨before, rfl, hb.symm⟩

theorem append_cons_eq_two {e f : Expression} (h : before ++ d :: after = [e, f]) :
    before = [] ∧ d = e ∧ after = [f] ∨ before = [e] ∧ d = f ∧ after = [] := by
  rcases before with _ | ⟨x, _ | ⟨y, before⟩⟩ <;> simp_all

theorem append_cons_eq_three {e f g : Expression} (h : before ++ d :: after = [e, f, g]) :
    before = [] ∧ d = e ∧ after = [f, g] ∨ before = [e] ∧ d = f ∧ after = [g] ∨
      before = [e, f] ∧ d = g ∧ after = [] := by
  rcases before with _ | ⟨x, _ | ⟨y, _ | ⟨z, before⟩⟩⟩ <;> simp_all

theorem PieceReads.hole {ts : List String} (hd : d.constant? = none)
    (h : Forall₂ (PieceReads names inCalc) (before ++ d :: after) ts) :
    Hole names inCalc (fun d' t => ∃ ts, Forall₂ (PieceReads names inCalc) (before ++ d' :: after) ts ∧
      t = String.join ts) d (String.join ts) := by
  obtain ⟨us, s, vs, rfl, hs, hr⟩ := exists_forall₂_hole h
  cases hs
  case text        => cases hd
  case other s _ hs =>
    refine ⟨String.join us ++ "<", s, ">" ++ String.join vs, hs, ?_, fun d' t hd' ht => ?_⟩
    · simp [String.append_assoc]
    · refine ⟨_, hr d' _ (.other (by rw [hd']; rfl) ht), ?_⟩
      simp [String.append_assoc]

theorem Opcode.Says.hole {op : Opcode} {types : List Ty}
    (h : op.Says names inCalc (before ++ d :: after) text) (hd : d.constant? = none)
    (hs : ¬(Frame.argument op types before after).Silent) :
    Hole names (inCalc || op.isCalc) (fun d' => op.Says names inCalc (before ++ d' :: after)) d text := by
  generalize he : before ++ d :: after = es at h
  cases h
  case invoke c n es ts hf hc hr =>
    rw [isCalc_eq_false (by simp [hf]), Bool.or_false]
    obtain ⟨before, rfl, rfl⟩ := eq_of_append_cons_eq_cons hd he
    refine (Hole.list hr (exists_enclosed_eq "(" ")")).wrap
      ("~" ++ names.callee "[proc," n) "" (by simp) ?_
    rintro d' _ - ⟨ts', hr', rfl⟩
    simpa using Says.invoke hf hc hr'
  case defineArray e a f b g c hf ha hb hc =>
    rw [isCalc_eq_false (by simp [hf]), Bool.or_false]
    rcases append_cons_eq_three he with ⟨rfl, rfl, rfl⟩ | ⟨rfl, rfl, rfl⟩ | ⟨rfl, rfl, rfl⟩
    · refine (Hole.self ha).wrap ("def_" ++ b ++ " $array") ("(" ++ c ++ ")")
        (by simp [String.append_assoc]) fun d' t _ ht => ?_
      simpa [String.append_assoc] using Says.defineArray hf ht hb hc
    · refine (Hole.self hb).wrap "def_" (" $array" ++ a ++ "(" ++ c ++ ")")
        (by simp [String.append_assoc]) fun d' t _ ht => ?_
      simpa [String.append_assoc] using Says.defineArray hf ha ht hc
    · exact (Hole.self hc).wrap ("def_" ++ b ++ " $array" ++ a ++ "(") ")" rfl fun d' t _ ht =>
        .defineArray hf ha hb ht
  case readArray e a f b hf ha hb =>
    rw [isCalc_eq_false (by simp [hf]), Bool.or_false]
    rcases append_cons_eq_two he with ⟨rfl, rfl, rfl⟩ | ⟨rfl, rfl, rfl⟩
    · refine (Hole.self ha).wrap "$array" ("(" ++ b ++ ")") (by simp [String.append_assoc])
        fun d' t _ ht => ?_
      simpa [String.append_assoc] using Says.readArray hf ht hb
    · exact (Hole.self hb).wrap ("$array" ++ a ++ "(") ")" rfl fun d' t _ ht => .readArray hf ha ht
  case writeArray e a f b g c hf ha hb hc =>
    rw [isCalc_eq_false (by simp [hf]), Bool.or_false]
    rcases append_cons_eq_three he with ⟨rfl, rfl, rfl⟩ | ⟨rfl, rfl, rfl⟩ | ⟨rfl, rfl, rfl⟩
    · refine (Hole.self ha).wrap "$array" ("(" ++ b ++ ")" ++ " = " ++ c)
        (by simp [String.append_assoc]) fun d' t _ ht => ?_
      simpa [String.append_assoc] using Says.writeArray hf ht hb hc
    · refine (Hole.self hb).wrap ("$array" ++ a ++ "(") (")" ++ " = " ++ c)
        (by simp [String.append_assoc]) fun d' t _ ht => ?_
      simpa [String.append_assoc] using Says.writeArray hf ha ht hc
    · refine (Hole.self hc).wrap ("$array" ++ a ++ "(" ++ b ++ ")" ++ " = ") "" (by simp)
        fun d' t _ ht => ?_
      simpa using Says.writeArray hf ha hb ht
  case join ts hf hr =>
    rw [isCalc_eq_false (by simp [hf]), Bool.or_false]
    subst he
    refine (PieceReads.hole hd hr).wrap "\"" "\"" rfl ?_
    rintro d' _ - ⟨ts', hr', rfl⟩
    exact .join hf hr'
  case created es t c word hf hn ht =>
    rw [isCalc_eq_false (by simp [hf]), Bool.or_false]
    obtain ⟨rest, rfl, rfl⟩ := eq_of_append_cons_eq_concat hd he
    rcases ht.hole hd with ⟨k, front, rfl, hk⟩ | ht
    case inl => exact absurd (.between (form_eq_hook_iff.mp hf) hk) hs
    case inr =>
      refine ht.wrap ((if c.int? = some 1 then "." else "") ++ word ++ "(") ")" rfl fun d' t _ ht => ?_
      simpa using Says.created (c := c) hf hn ht
  case named es t e a word hf hn ht ha =>
    rw [isCalc_eq_false (by simp [hf]), Bool.or_false]
    rcases append_cons_eq_append_iff.mp he with ⟨rest, rfl, rfl⟩ | ⟨front, rfl, hl⟩
    case inl =>
      rcases ht.hole hd with ⟨k, front, rfl, hk⟩ | ht
      case inl => exact absurd (.between (form_eq_hook_iff.mp hf) hk) hs
      case inr =>
        refine ht.wrap (word ++ "(") (", " ++ a ++ ")") (by simp [String.append_assoc])
          fun d' t _ ht => ?_
        simpa [String.append_assoc] using Says.named hf hn ht ha
    case inr =>
      obtain ⟨rfl, rfl, rfl⟩ : front = [] ∧ d = e ∧ after = [] := by
        cases front <;> simp_all
      refine (Hole.self ha).wrap (word ++ "(" ++ t ++ ", ") ")" rfl fun d' s _ hs' => ?_
      simpa using Says.named hf hn ht hs'
  case branch symbol e a f b hf ha hb =>
    rw [isCalc_eq_false (by simp [hf]), Bool.or_false]
    rcases append_cons_eq_two he with ⟨rfl, rfl, rfl⟩ | ⟨rfl, rfl, rfl⟩
    · refine (Hole.self ha).wrap "(" (" " ++ symbol ++ " " ++ b ++ ")")
        (by simp [String.append_assoc]) fun d' t _ ht => ?_
      simpa [String.append_assoc] using Says.branch hf ht hb
    · exact (Hole.self hb).wrap ("(" ++ a ++ " " ++ symbol ++ " ") ")" rfl fun d' t _ ht =>
        .branch hf ha ht
  case «calc» symbol e a f b hf ha hb =>
    rw [isCalc_eq_true hf, Bool.or_true]
    rcases append_cons_eq_two he with ⟨rfl, rfl, rfl⟩ | ⟨rfl, rfl, rfl⟩
    · refine (Hole.self ha).wrap ((if inCalc then "" else "calc") ++ "(")
        (" " ++ symbol ++ " " ++ b ++ ")") (by simp [String.append_assoc]) fun d' t _ ht => ?_
      simpa [String.append_assoc] using Says.calc hf ht hb
    · refine (Hole.self hb).wrap ((if inCalc then "" else "calc") ++ ("(" ++ a ++ " " ++ symbol ++ " "))
        ")" (by simp [String.append_assoc]) fun d' t _ ht => ?_
      simpa [String.append_assoc] using Says.calc hf ha ht
  case dotCall n es ts c word hf hn hc hr =>
    rw [isCalc_eq_false (by simp [hf]), Bool.or_false]
    obtain ⟨rest, rfl, rfl⟩ := eq_of_append_cons_eq_concat hd he
    refine (Hole.list hr (exists_enclosed_eq "(" ")")).wrap
      ((if n = 1 then "." else "") ++ word) "" (by simp [String.append_assoc]) ?_
    rintro d' _ - ⟨ts', hr', rfl⟩
    simpa [String.append_assoc] using Says.dotCall hf hn hc hr'
  case call ts word hf hn hr =>
    rw [isCalc_eq_false (by simp [hf]), Bool.or_false]
    subst he
    refine (Hole.list hr (exists_enclosed_eq "(" ")")).wrap word "" (by simp) ?_
    rintro d' _ - ⟨ts', hr', rfl⟩
    simpa using Says.call hf hn hr'

theorem Opcode.says_null_iff {op : Opcode} {target : HookTarget} {c : Constant} {e : Expression}
    {between : List Expression} (hf : op.form = .hook target) (hc : c.int? = some (-1)) :
    op.Says names inCalc (.const c :: (between ++ [e])) text ↔
      ∃ word dot tail, op.name? = some word ∧ target.Frames names inCalc e dot tail ∧
        text = dot ++ word ++ "(null" ++ tail ++ ")" := by
  rw [← List.cons_append, says_hook_append_iff hf]
  constructor
  case mp  =>
    rintro ⟨word, t, dot, tail, hn, ht, hk, rfl⟩
    cases ht
    case null                     =>
      exact ⟨word, dot, tail, hn, hk, by simp only [String.append_assoc]; rfl⟩
    case call hid _ hi _ _ _ _ => simp_all
  case mpr =>
    rintro ⟨word, dot, tail, hn, hk, rfl⟩
    refine ⟨word, "null", dot, tail, hn, .null hc, hk, ?_⟩
    simp only [String.append_assoc]
    rfl

namespace Frame

variable {f : Frame} {e e' : Expression}

theorem constant?_fill (f : Frame) (e : Expression) : (f.fill e).constant? = none := by
  cases f <;> rfl

theorem hole (hs : ¬f.Silent) (hd : d.constant? = none) (h : (f.fill d).Reads names inCalc text) :
    Hole names (inCalc || f.isCalc) (fun d' => (f.fill d').Reads names inCalc) d text := by
  cases f
  case argument code types before after =>
    obtain ⟨front, s, back, hr, ht, hw⟩ := (Expression.reads_op_iff.mp h).hole hd hs
    exact ⟨front, s, back, hr, ht, fun d' s' hd' h' => Expression.reads_op_iff.mpr (hw d' s' hd' h')⟩
  case element before after =>
    obtain ⟨ts, hr, rfl⟩ := Expression.reads_compound_iff.mp h
    rw [isCalc, Bool.or_false]
    obtain ⟨front, s, back, hr, ht, hw⟩ := Hole.list hr exists_intercalate_eq
    exact ⟨front, s, back, hr, ht, fun d' s' hd' h' =>
      Expression.reads_compound_iff.mpr (hw d' s' hd' h')⟩

theorem reads_fill_of_silent (hs : f.Silent) :
    (f.fill e).Reads names inCalc text ↔ (f.fill e').Reads names inCalc text := by
  cases hs
  case between code types before after component c target hook hc =>
    have hf := Opcode.form_eq_hook_iff.mpr hook
    have split (d : Expression) : .const c :: before ++ d :: (after ++ [component]) =
        .const c :: ((before ++ d :: after) ++ [component]) := by simp
    rw [fill, fill, Expression.reads_op_iff, Expression.reads_op_iff, split, split,
      Opcode.says_null_iff hf hc, Opcode.says_null_iff hf hc]

end Frame

namespace Expression

variable {path : List Frame} {e e' : Expression}

theorem reads_unique {s t : String} (hs : e.Reads names inCalc s) (ht : e.Reads names inCalc t) :
    s = t :=
  Except.ok.inj (hs.symm.trans ht)

theorem constant?_inside (hd : d.constant? = none) : (inside path d).constant? = none := by
  cases path
  case nil        => exact hd
  case cons f path => exact f.constant?_fill _

theorem hole_inside (hp : ∀ f ∈ path, ¬f.Silent) (hd : d.constant? = none)
    (h : (inside path d).Reads names inCalc text) :
    Hole names (inCalc || path.any Frame.isCalc) (fun d' => (inside path d').Reads names inCalc) d
      text := by
  induction path generalizing inCalc text
  case nil            =>
    rw [List.any_nil, Bool.or_false]
    exact .self h
  case cons f path hi =>
    obtain ⟨hf, hp⟩ := List.forall_mem_cons.mp hp
    obtain ⟨front, s, back, hs, rfl, hw⟩ := f.hole hf (constant?_inside hd) h
    rw [List.any_cons, ← Bool.or_assoc]
    exact (hi hp hs).wrap front back rfl fun d' t hd' => hw _ _ (constant?_inside hd')

theorem reads_inside_congr (he : e.constant? = none) (he' : e'.constant? = none)
    (h : ∀ b t, e.Reads names b t → e'.Reads names b t)
    (hr : (inside path e).Reads names inCalc text) : (inside path e').Reads names inCalc text := by
  induction path generalizing inCalc text
  case nil            => exact h inCalc text hr
  case cons f path hi =>
    by_cases hs : f.Silent
    case pos => exact (Frame.reads_fill_of_silent hs).mp hr
    case neg =>
      obtain ⟨front, s, back, hs, rfl, hw⟩ := f.hole hs (constant?_inside he) hr
      exact hw _ _ (constant?_inside he') (hi hs)

theorem reads_inside_of_silent (hs : ∃ f ∈ path, f.Silent)
    (h : (inside path d).Reads names inCalc text) :
    (inside path e).Reads names inCalc text := by
  obtain ⟨f, hf, hs⟩ := hs
  obtain ⟨before, after, rfl⟩ := List.append_of_mem hf
  have split (x : Expression) : inside (before ++ f :: after) x =
      inside before (f.fill (inside after x)) := by simp [inside]
  rw [split] at h ⊢
  exact reads_inside_congr (f.constant?_fill _) (f.constant?_fill _)
    (fun _ _ => (Frame.reads_fill_of_silent hs).mp) h

-- Whatever else a path to an expression holds, only the arithmetic on it counts for how the expression is
-- read, and the rest of the text is the same for all expressions at its end. At the end of some paths
-- nothing is read.
theorem reads_inside_iff (hp : ∀ f ∈ path, ¬f.Silent) (hd : d.constant? = none)
    (h : (inside path d).Reads names inCalc text) :
    ∃ front back, ∀ e t, e.constant? = none →
      ((inside path e).Reads names inCalc t ↔
        ∃ s, e.Reads names (inCalc || path.any Frame.isCalc) s ∧ t = front ++ s ++ back) := by
  obtain ⟨front, s, back, -, -, hw⟩ := hole_inside hp hd h
  refine ⟨front, back, fun e t he => ⟨fun ht => ?_, ?_⟩⟩
  case refine_1 =>
    obtain ⟨_, u, _, hu, -, -⟩ := hole_inside hp he ht
    exact ⟨u, hu, reads_unique ht (hw e u he hu)⟩
  case refine_2 =>
    rintro ⟨u, hu, rfl⟩
    exact hw e u he hu

theorem exists_inside_of_mem {es : List Expression}
    (hi : ∀ e ∈ es, d ∈ e.parts → ∃ path, e = inside path d) (hd : d ∈ es.flatMap parts) :
    ∃ before path after, es = before ++ inside path d :: after := by
  obtain ⟨e, he, hp⟩ := List.mem_flatMap.mp hd
  obtain ⟨path, rfl⟩ := hi e he hp
  obtain ⟨before, after, rfl⟩ := List.append_of_mem he
  exact ⟨before, path, after, rfl⟩

theorem mem_parts_iff : d ∈ e.parts ↔ ∃ path, e = inside path d := by
  constructor
  case mp  =>
    intro hd
    induction e
    case var              => exact ⟨[], (List.mem_singleton.mp hd).symm⟩
    case const            => exact ⟨[], (List.mem_singleton.mp hd).symm⟩
    case op code ts es hi =>
      rw [parts, partsOf_eq_flatMap] at hd
      rcases List.mem_cons.mp hd with rfl | hp
      case inl => exact ⟨[], rfl⟩
      case inr =>
        obtain ⟨before, path, after, rfl⟩ := exists_inside_of_mem hi hp
        exact ⟨.argument code ts before after :: path, rfl⟩
    case compound es hi   =>
      rw [parts, partsOf_eq_flatMap] at hd
      rcases List.mem_cons.mp hd with rfl | hp
      case inl => exact ⟨[], rfl⟩
      case inr =>
        obtain ⟨before, path, after, rfl⟩ := exists_inside_of_mem hi hp
        exact ⟨.element before after :: path, rfl⟩
  case mpr =>
    rintro ⟨path, rfl⟩
    induction path
    case nil            => exact mem_parts_self d
    case cons f path hi =>
      cases f
      case argument => exact mem_parts_op List.mem_append_cons_self hi
      case element  => exact mem_parts_compound List.mem_append_cons_self hi

end Expression
end ClientScript
