import ClientScript.Proofs.Emission.Hook
import ClientScript.Proofs.Emission.Rendering
import ClientScript.Proofs.Literal
import ClientScript.Proofs.Occurrence
import ClientScript.Proofs.Text.Brackets

namespace ClientScript

open List (Forall₂)
open Expression (Reads)
open Text (Sight mark plain separates breaks isIntChar)

theorem forall_of_forall₂ {r : α → β → Prop} {p : β → Prop} {as : List α} {bs : List β}
    (h : ∀ a ∈ as, ∀ b, r a b → p b) (hr : Forall₂ r as bs) : ∀ b ∈ bs, p b := by
  induction hr
  case nil          => exact fun _ hb => absurd hb List.not_mem_nil
  case cons hab _ hi =>
    rw [List.forall_mem_cons] at h ⊢
    exact ⟨h.left _ hab, hi h.right⟩

theorem exists_of_forall₂ {r : α → β → Prop} {as : List α} {bs : List β} (hr : Forall₂ r as bs) :
    ∀ a ∈ as, ∃ b, r a b :=
  forall_of_forall₂ (fun b _ _ h => ⟨b, h⟩) (List.Forall₂.flip hr)

structure Names.Tame (names : Names) (v : Sight) : Prop where
  quiet    : ∀ kind id name, names kind id = some name → v.Quiet name.toList
  unmarked : v.marks → ∀ kind id name, names kind id = some name → ¬mark <:+: name.toList

def Expression.Tame (v : Sight) (e : Expression) : Prop :=
  ∀ c s, .const c ∈ e.parts → c.text? = some s → v.Quiet s.toList

section Words

variable {v : Sight} {names : Names} {inCalc : Bool} {text : String}

theorem Ty.plain_literal (ty : Ty) : plain ty.literal.toList :=
  Text.plain_of_bytes (by cases ty <;> decide +kernel)

theorem Ty.plain_keyword {ty : Ty} (h : e ∈ ty.keywords) : plain e.2.toList := by
  have ha : ty.keywords.all fun e => Text.plainBytes e.2.toByteArray.data.toList := by
    cases ty <;> decide +kernel
  exact Text.plain_of_bytes (List.all_eq_true.mp ha e h)

theorem Opcode.plain_name {op : Opcode} (h : op.name? = some text) : plain text.toList := by
  have ha : registry.all fun e => Text.plainBytes e.2.toByteArray.data.toList := by
    decide +kernel
  exact Text.plain_of_bytes (List.all_eq_true.mp ha _ (mem_of_lookup h))

theorem Variable.calm_text {x : Variable} (h : x.text = .ok text) : v.Calm inCalc text := by
  cases hk : x.kind <;> rw [Variable.text, hk] at h <;> cases h
  case frame =>
    refine .then_separator ?_ (Text.separates_toString _)
    exact .append (.of_plain rfl) rfl (.of_plain x.ty.plain_literal)
  case varc  =>
    refine .then_separator ?_ (Text.separates_toString _)
    exact .of_plain (by cases x.ty.stack <;> rfl)
  all_goals exact .then_separator (.of_plain rfl) (Text.separates_toString _)

namespace Spelling

theorem calm_coordText (n : Nat) : v.Calm inCalc (coordText n) := by
  have number (k : Nat) : v.Calm inCalc (toString k) := .of_separates (Text.separates_toString k)
  simp only [coordText, List.map_cons, List.map_nil, String.intercalate_cons_cons,
    String.intercalate_singleton]
  exact .between (number _) rfl <| .between (number _) rfl <| .between (number _) rfl <|
    .between (number _) rfl (number _)

theorem plain_colour (n : Nat) : plain ("0x" ++ padded 6 (hex n)).toList := by
  have hd : Text.hexDigits.all fun c => !(['(', ')', '\x7b', '\x7d', 'l'].contains c) := rfl
  refine Text.plain_of_forall fun c hc => ?_
  rw [String.toList_append] at hc
  have hm : c ∈ ['0', 'x'] ∨ c ∈ Text.hexDigits :=
    (List.mem_append.mp hc).imp id mem_hexDigits_of_mem_colourDigits
  rcases hm with hm | hm
  case inl =>
    simp only [List.mem_cons, List.not_mem_nil, or_false] at hm
    rcases hm with rfl | rfl <;> decide
  case inr => simpa using List.all_eq_true.mp hd c hm

end Spelling

theorem Names.Tame.calm (hn : names.Tame v) {id : Int32} (h : names kind id = some text) :
    v.Calm inCalc text :=
  .of_quiet (hn.quiet kind id text h) fun hv hm => hn.unmarked hv kind id text h hm.isInfix

theorem Ty.eq_of_counted {ty : Ty} (h : ty.spelling = .counted word) : word = "var" := by
  cases ty <;> simp_all [spelling]

theorem Ty.calm_intText {ty : Ty} (hn : names.Tame v) (h : ty.intText names n = .ok text) :
    v.Calm inCalc text := by
  have number (k : Int) : v.Calm inCalc (toString k) :=
    .of_separates (Text.separates_toString_int k)
  have digits (k : Nat) : v.Calm inCalc (toString k) := .of_separates (Text.separates_toString k)
  replace h := intText_eq_ok_iff.mp h
  rcases h with h | ⟨-, h⟩
  case inl => exact .of_plain (plain_keyword (mem_of_lookup h))
  case inr =>
    cases hs : ty.spelling <;> rw [hs] at h
    case closed            => cases h
    case descriptor        =>
      obtain ⟨t, _, rfl⟩ := Option.map_eq_some_iff.mp h
      exact .of_plain t.plain_literal
    all_goals obtain rfl := Option.some.inj h
    case number            => exact number _
    case counted word      =>
      rw [eq_of_counted hs]
      exact .then_separator (.of_plain rfl) (Text.separates_toString_int _)
    case symbol kind       =>
      cases hk : names kind n
      case none => exact number _
      case some => exact hn.calm hk
    case quotedSymbol kind =>
      cases hk : names kind n
      case none => exact number _
      case some => exact .then_separator (.append (.of_plain rfl) rfl (hn.calm hk)) rfl
    case component         => exact (digits _).between rfl (digits _)
    case coord             => exact Spelling.calm_coordText _
    case colour            => exact .of_plain (Spelling.plain_colour _)

theorem calm_quoted {s : String} (h : v.Quiet s.toList) : v.Calm inCalc ("\"" ++ s ++ "\"") := by
  refine .of_nest ?_ (Sight.quiet_of_plain rfl) rfl (by decide)
  rw [String.toList_append, Sight.brackets_of_quiet]
  · exact .nil
  · exact Sight.quiet_append (Sight.quiet_of_plain rfl) h

theorem Constant.calm_text {c : Constant} (hn : names.Tame v)
    (hc : ∀ s, c.text? = some s → v.Quiet s.toList) (h : c.text names = .ok text) :
    v.Calm inCalc text := by
  rcases c with ⟨ty, payload⟩
  cases payload <;> rw [Constant.text] at h <;> dsimp only at h <;> split at h
  case int.isFalse     => exact Ty.calm_intText hn h
  case text.isTrue s _ =>
    obtain rfl := Except.ok.inj h
    rw [stringText]
    split
    case isTrue hs => exact .of_plain (hs ▸ rfl)
    case isFalse   => exact calm_quoted (hc s rfl)
  all_goals cases h

theorem Names.Tame.calm_part (hn : names.Tame v) {id : Int32} {front inner back : String}
    (h : names kind id = some (front ++ inner ++ back)) : v.Calm inCalc inner := by
  have hi : inner.toList <:+: (front ++ inner ++ back).toList := ⟨front.toList, back.toList, by simp⟩
  exact .of_quiet (fun c hc => hn.quiet _ _ _ h c (hi.subset hc)) fun hv hm =>
    hn.unmarked hv _ _ _ h (hm.isInfix.trans hi)

theorem Names.Tame.calm_callee (hn : names.Tame v) (lead : String) (id : Int32) :
    v.Calm inCalc (names.callee lead id) := by
  have hc := Names.calls_iff.mpr (rfl : names.callee lead id = _)
  generalize names.callee lead id = name at hc ⊢
  cases hc
  case unknown    => exact .then_separator (.of_plain rfl) (Text.separates_toString_int _)
  case closed h   => exact hn.calm_part h
  case opened h _ =>
    have h : names .script id = some (lead ++ name ++ "") := by simpa using h
    exact hn.calm_part h
  case plain h _  => exact hn.calm h

namespace Opcode

variable {op : Opcode} {symbol : String}

theorem form_eq_calc_iff : op.form = .calc symbol ↔ op.calcSymbol? = some symbol := by
  constructor
  case mp  =>
    intro h
    rw [form] at h
    split at h
    case h_6 =>
      cases hh : op.hook? <;> cases hb : op.branchSymbol? <;> cases hc : op.calcSymbol? <;>
        cases hd : op.isDotted <;> simp_all
    all_goals cases h
  case mpr =>
    intro h
    have ht : [(4000, "+"), (4001, "-"), (4002, "*"), (4003, "/"), (4011, "%"), (4014, "&"),
        (4015, "|")].all fun e => (Opcode.mk (.ofNat e.1)).form = .calc e.2 := by decide
    simpa using List.all_eq_true.mp ht _ (mem_of_lookup h)

theorem branchSymbol?_of_form (h : op.form = .branch symbol) : op.branchSymbol? = some symbol := by
  rw [form] at h
  split at h
  case h_6 =>
    cases hh : op.hook? <;> cases hb : op.branchSymbol? <;> cases hc : op.calcSymbol? <;>
      cases hd : op.isDotted <;> simp_all
  all_goals cases h

theorem separates_symbol (h : op.form = .branch symbol ∨ op.form = .calc symbol) :
    separates (" " ++ symbol ++ " ").toList := by
  rcases h with h | h
  case inl =>
    have ha : [(7, "!"), (8, "="), (9, "<"), (10, ">"), (31, "<="), (32, ">="), (10000, "|"),
        (10001, "&")].all fun e => separates (" " ++ e.2 ++ " ").toList := by decide +kernel
    exact List.all_eq_true.mp ha (op.code.toNat, symbol) (mem_of_lookup (branchSymbol?_of_form h))
  case inr =>
    have ha : [(4000, "+"), (4001, "-"), (4002, "*"), (4003, "/"), (4011, "%"), (4014, "&"),
        (4015, "|")].all fun e => separates (" " ++ e.2 ++ " ").toList := by decide +kernel
    exact List.all_eq_true.mp ha (op.code.toNat, symbol) (mem_of_lookup (form_eq_calc_iff.mp h))

end Opcode

end Words

section Expressions

variable {v : Sight} {names : Names} {inCalc : Bool} {text : String}
variable {es : List Expression} {ts : List String}

theorem calm_all (h : ∀ e ∈ es, ∀ b t, e.Reads names b t → v.Calm b t)
    (hr : Forall₂ (Reads names inCalc) es ts) : ∀ t ∈ ts, v.Calm inCalc t :=
  forall_of_forall₂ (fun e he t => h e he inCalc t) hr

theorem calm_round {s : String} (hs : v.Calm inCalc s) (ht : ∀ t ∈ ts, v.Calm inCalc t) :
    v.Calm inCalc (s ++ enclosed "(" ")" ts) := by
  cases ts
  case nil  => simpa [enclosed] using hs
  case cons => simpa [enclosed, String.append_assoc] using hs.round (.intercalate ht)

theorem calm_curly {s : String} (hs : v.Calm inCalc s) (ht : ∀ t ∈ ts, v.Calm inCalc t) :
    v.Calm inCalc (s ++ enclosed "\x7b" "\x7d" ts) := by
  cases ts
  case nil  => simpa [enclosed] using hs
  case cons => simpa [enclosed, String.append_assoc] using hs.curly (.intercalate ht)

theorem calm_callback (hn : names.Tame v) (he : ∀ e ∈ es, ∀ b t, e.Reads names b t → v.Calm b t)
    (h : CallbackReads names inCalc es text) : v.Calm inCalc text := by
  cases h
  case null                                                       => exact .of_plain rfl
  case call c k id n arguments triggers as ts _ _ _ _ first second =>
    simp only [List.forall_mem_cons, List.forall_mem_append] at he
    obtain ⟨-, ⟨ha, ht⟩, -⟩ := he
    have hq : v.Calm inCalc ("\"" ++ names.callee "[clientscript," id) :=
      .behind rfl (hn.calm_callee _ _)
    have hs := calm_curly (hq.round (.intercalate (calm_all ha first))) (calm_all ht second)
    exact hs.then_separator rfl

-- Pieces of a joined text bring no brackets out of order, though the mark may stand at their end.
theorem nest_join (he : ∀ e ∈ es, ∀ b t, e.Reads names b t → v.Calm b t)
    (hc : ∀ c s, .const c ∈ es → c.text? = some s → v.Quiet s.toList)
    (h : Forall₂ (PieceReads names inCalc) es ts) {s : String}
    (hs : Text.Nest inCalc (v.brackets [] s.toList)) :
    Text.Nest inCalc (v.brackets [] (s ++ String.join ts).toList) := by
  induction h generalizing s
  case nil                 => simpa using hs
  case cons e t es ts hp _ hi =>
    rw [List.forall_mem_cons] at he
    rw [String.join_cons, ← String.append_assoc]
    refine hi he.right (fun c s hm => hc c s (.tail _ hm)) ?_
    cases hp
    case text c ht        =>
      rw [String.toList_append, Sight.brackets_append,
        Sight.brackets_of_quiet (hc c t (.head _) ht), List.append_nil]
      exact hs
    case other t _ hr =>
      have hl : v.Calm inCalc (s ++ "<") := .of_nest hs (Sight.quiet_of_plain rfl) rfl (by decide)
      have hb : breaks (s ++ "<").toList := by
        rw [String.toList_append]
        exact Sight.breaks_append rfl (by decide)
      have hp := (hl.append hb (he.left _ _ hr)).then_separator (t := ">") rfl
      simpa [String.append_assoc] using hp.nest

theorem calm_says {op : Opcode} (hn : names.Tame v)
    (he : ∀ e ∈ es, ∀ b t, e.Reads names b t → v.Calm b t)
    (hc : ∀ c s, .const c ∈ es → c.text? = some s → v.Quiet s.toList)
    (h : op.Says names inCalc es text) : v.Calm inCalc text := by
  have dot {p : Prop} [Decidable p] {word : String} (hw : op.name? = some word) :
      v.Calm inCalc ((if p then "." else "") ++ word) := by
    have hw : v.Calm inCalc word := .of_plain (Opcode.plain_name hw)
    split
    case isTrue  => exact .behind rfl hw
    case isFalse => simpa using hw
  cases h
  case invoke hr                               =>
    exact calm_round (.behind rfl (hn.calm_callee _ _)) (calm_all (List.forall_mem_cons.mp he).right hr)
  case defineArray e a f b g c _ ha hb size    =>
    have hb := Sight.Calm.behind (s := "def_") rfl (he f (by simp) _ _ hb)
    exact (hb.between rfl (he e (by simp) _ _ ha)).round (he g (by simp) _ _ size)
  case readArray e a f b _ ha hb               =>
    have ha := Sight.Calm.behind (s := "$array") rfl (he e (by simp) _ _ ha)
    exact ha.round (he f (by simp) _ _ hb)
  case writeArray e a f b g c _ ha hb value    =>
    have ha := Sight.Calm.behind (s := "$array") rfl (he e (by simp) _ _ ha)
    exact (ha.round (he f (by simp) _ _ hb)).between rfl (he g (by simp) _ _ value)
  case join ts _ hr                            =>
    have hq : Text.Nest inCalc (v.brackets [] "\"".toList) :=
      (Sight.Calm.of_plain rfl).nest
    exact .of_nest (nest_join he hc hr hq) (Sight.quiet_of_plain rfl) rfl (by decide)
  case created es t c word _ hw ht             =>
    exact (dot hw).round (calm_callback hn (fun e h => he e (by simp [h])) ht)
  case named es t e a word _ hw ht ha          =>
    have ht := calm_callback hn (fun e h => he e (by simp [h])) ht
    have hi := ht.between (m := ", ") rfl (he e (by simp) _ _ ha)
    have hs := (Sight.Calm.of_plain (Opcode.plain_name hw)).round hi
    simpa [String.append_assoc] using hs
  case branch symbol e a f b hf ha hb          =>
    have hi := (he e (by simp) _ _ ha).between (Opcode.separates_symbol (.inl hf)) (he f (by simp) _ _ hb)
    have hs := (Sight.Calm.of_plain (s := "") rfl).round hi
    simpa [String.append_assoc] using hs
  case «calc» symbol e a f b hf ha hb          =>
    have hi := (he e (by simp) _ _ ha).between (Opcode.separates_symbol (.inr hf)) (he f (by simp) _ _ hb)
    cases inCalc
    case false =>
      have hm := hi.marked
      simp only [String.append_assoc] at hm ⊢
      exact hm
    case true  =>
      have hs := (Sight.Calm.of_plain (s := "") rfl).round hi
      simpa [String.append_assoc] using hs
  case dotCall n es ts c word _ hw _ hr        =>
    rw [← String.append_assoc]
    exact calm_round (dot hw) (calm_all (fun e h => he e (by simp [h])) hr)
  case call ts word _ hw hr                    =>
    exact calm_round (.of_plain (Opcode.plain_name hw)) (calm_all he hr)

theorem Expression.calm_of_reads {e : Expression} (hn : names.Tame v) (he : e.Tame v)
    (h : e.Reads names inCalc text) : v.Calm inCalc text := by
  induction e generalizing inCalc text
  case var x            => exact Variable.calm_text h
  case const c          => exact Constant.calm_text hn (fun s hs => he c s (mem_parts_self _) hs) h
  case op code ts es hi =>
    refine calm_says hn (fun e hm b t hr => ?_) (fun c s hm => ?_) (reads_op_iff.mp h)
    case refine_1 => exact hi e hm (fun c s hc => he c s (mem_parts_op hm hc)) hr
    case refine_2 => exact he c s (mem_parts_op hm (mem_parts_self _))
  case compound es hi   =>
    obtain ⟨ts, hr, rfl⟩ := reads_compound_iff.mp h
    refine .intercalate (calm_all (fun e hm b t hr => ?_) hr)
    exact hi e hm (fun c s hc => he c s (mem_parts_compound hm hc)) hr

end Expressions

section Lines

variable {v : Sight} {names : Names} {text : String}

theorem calm_listText {texts : List (Except EmitError String)}
    (ht : ∀ x ∈ texts, ∀ t, x = .ok t → v.Calm false t) (h : listText texts = .ok text) :
    v.Calm false text := by
  obtain ⟨ts, hm, h⟩ := bind_eq_ok_iff.mp h
  obtain rfl := Except.ok.inj h
  exact .intercalate (forall_of_forall₂ ht (mapM_eq_ok_iff.mp hm))

theorem calm_targetsText {vs declared : List Variable}
    (h : Instruction.targetsText declared vs = .ok text) :
    v.Calm false text ∧ breaks text.toList := by
  rcases vs with _ | ⟨x, _ | ⟨y, vs⟩⟩
  case nil       =>
    obtain rfl := Except.ok.inj h
    exact ⟨.of_plain rfl, rfl⟩
  case cons.nil  =>
    obtain ⟨t, ht, h⟩ := bind_eq_ok_iff.mp h
    obtain rfl := Except.ok.inj h
    rw [String.toList_append]
    refine ⟨.then_separator ?_ rfl, Sight.breaks_append_of_separates rfl⟩
    split
    case isTrue  =>
      have hk : v.Calm false ("def_" ++ x.ty.literal) := .behind rfl (.of_plain x.ty.plain_literal)
      exact hk.between rfl (Variable.calm_text ht)
    case isFalse => simpa using Variable.calm_text ht
  case cons.cons =>
    obtain ⟨t, ht, h⟩ := bind_eq_ok_iff.mp h
    obtain rfl := Except.ok.inj h
    rw [String.toList_append]
    refine ⟨.then_separator (calm_listText (fun u hu s hs => ?_) ht) rfl,
      Sight.breaks_append_of_separates rfl⟩
    obtain ⟨w, _, rfl⟩ := List.mem_map.mp hu
    exact Variable.calm_text hs

def Role.front : Role → String
  | branch first _ => if first then "" else "\x7d"
  | otherwise      => "\x7d"
  | close          => "\x7d"
  | _              => ""

def Role.back : Role → String
  | loop _     => "\x7b"
  | branch _ _ => "\x7b"
  | otherwise  => "\x7b"
  | switch _   => "\x7b"
  | _          => ""

-- Between the edges of a line all brackets are in order.
theorem Role.Renders.exists_middle {role : Role} (hn : names.Tame v)
    (he : ∀ e ∈ role.written, e.Tame v) (h : role.Renders names text) :
    ∃ middle : String, v.Calm false middle ∧ breaks middle.toList ∧
      text = role.front ++ middle ++ role.back := by
  have reads {e : Expression} {t : String} (hm : e ∈ role.written) (hr : e.Reads names false t) :
      v.Calm false t := Expression.calm_of_reads hn (he e hm) hr
  -- Most lines end with something that keeps what stands behind it apart.
  have ending {s t m : String} (hs : v.Calm false s) (ht : separates t.toList)
      (hm : m = role.front ++ (s ++ t) ++ role.back) :
      ∃ middle : String, v.Calm false middle ∧ breaks middle.toList ∧
        m = role.front ++ middle ++ role.back := by
    refine ⟨s ++ t, hs.then_separator ht, ?_, hm⟩
    rw [String.toList_append]
    exact Sight.breaks_append_of_separates ht
  cases h
  case assign ht hs         =>
    obtain ⟨ht, hb⟩ := calm_targetsText (v := v) ht
    exact ending (ht.append hb (reads (.head _) hs)) (t := ";") rfl (by simp [front, back])
  case ret ts value hr      =>
    have ht : ∀ t ∈ ts, v.Calm false t := forall_of_forall₂ (fun e hm t => reads hm) hr
    exact ending (calm_round (s := "return") (.of_plain rfl) ht) (t := ";") rfl (by simp [front, back])
  case loop s c hs          =>
    have hr : v.Calm false ("while " ++ s) := .behind rfl (reads (.head _) hs)
    exact ending hr (t := " ") rfl (String.toList_inj.mp (by simp [front, back]))
  case branch s first c hs  =>
    have hr : v.Calm false ((if first then "if " else " else if ") ++ s) :=
      .behind (by cases first <;> rfl) (reads (.head _) hs)
    exact ending hr (t := " ") rfl
      (String.toList_inj.mp (by cases first <;> simp [front, back]))
  case otherwise            =>
    exact ending (s := "") (.of_plain rfl) (t := " else ") rfl rfl
  case switch ty s e ht hs  =>
    have hk : v.Calm false ("switch_" ++ ty.literal) := .behind rfl (.of_plain ty.plain_literal)
    have hr := (hk.then_separator (t := " ") rfl).round (reads (.head _) hs)
    exact ending hr (t := " ") rfl (String.toList_inj.mp (by simp [front, back]))
  case case ty ns ts e _ hl =>
    have ht : ∀ t ∈ ts, v.Calm false t := forall_of_forall₂ (fun n _ t => ty.calm_intText hn) hl
    have hr : v.Calm false ("case " ++ ", ".intercalate ts) := .behind rfl (.intercalate ht)
    exact ending hr (t := " :") rfl (by simp [front, back])
  case default              =>
    exact ending (s := "") (.of_plain rfl) (t := "case default :") rfl rfl
  case close                => exact ⟨"", .of_plain rfl, rfl, rfl⟩

theorem Role.Renders.calm {role : Role} (hv : v.curly = false) (hn : names.Tame v)
    (he : ∀ e ∈ role.written, e.Tame v) (h : role.Renders names text) : v.Calm false text := by
  obtain ⟨middle, hm, -, rfl⟩ := h.exists_middle hn he
  have front : v.Quiet role.front.toList ∧ breaks role.front.toList := by
    cases role <;> simp only [Role.front]
    case branch first _ => cases first <;> simp [Sight.Quiet, hv, breaks, mark]
    all_goals simp [Sight.Quiet, hv, breaks, mark]
  have hf : v.Calm false (role.front ++ middle) :=
    .append (.of_quiet front.left fun _ => Sight.not_mark_suffix_of_breaks front.right) front.right hm
  have back : role.back = "" ∨ role.back = "\x7b" := by cases role <;> simp [Role.back]
  rcases back with hb | hb <;> rw [hb]
  case inl => simpa using hf
  case inr => exact .of_nest hf.nest (by simp [Sight.Quiet, hv]) rfl (by decide)

theorem Script.calm_signature {s : Script} (hn : names.Tame v) (h : s.signature names = .ok text) :
    v.Calm false text := by
  obtain ⟨arguments, ha, h⟩ := bind_eq_ok_iff.mp h
  obtain rfl := Except.ok.inj h
  have hname : v.Calm false (names.script s.id) := by
    rw [Names.script]
    cases hk : names .script s.id
    case none => exact .then_separator (.of_plain rfl) (Text.separates_toString_int _)
    case some => exact hn.calm hk
  have hargs : v.Calm false arguments := by
    refine calm_listText (fun x hx t ht => ?_) ha
    obtain ⟨w, _, rfl⟩ := List.mem_map.mp hx
    rw [argumentText] at ht
    split at ht
    case isTrue  =>
      obtain rfl := Except.ok.inj ht
      have hl {b : Bool} : v.Calm b w.ty.literal := .of_plain w.ty.plain_literal
      exact .then_separator (hl.between rfl hl) (Text.separates_toString _)
    case isFalse => cases ht
  have hfirst : v.Calm false (names.script s.id ++
      if s.arguments.isEmpty ∧ s.returns.isEmpty then "" else "(" ++ arguments ++ ")") := by
    split
    case isTrue  => simpa using hname
    case isFalse => simpa [String.append_assoc] using hname.round hargs
  have hreturns : ∀ t ∈ s.returns.map Ty.literal, v.Calm false t := by
    intro t ht
    obtain ⟨ty, _, rfl⟩ := List.mem_map.mp ht
    exact .of_plain ty.plain_literal
  simpa [enclosed] using calm_round hfirst hreturns

end Lines
end ClientScript
