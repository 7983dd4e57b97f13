import ClientScript.Proofs.Emission.Declared
import ClientScript.Proofs.Emission.Layout
import Mathlib.Data.List.Forall2

namespace ClientScript

def Role.Fits (names : Names) : Role → String → Prop
  | statement i,    text =>
    (∃ declared, i.text names declared = .ok text) ∧ ∃ front, text = front ++ ";"
  | loop c,         text => ∃ t, c.text names false = .ok t ∧ text = "while " ++ t ++ " \x7b"
  | branch first c, text =>
    ∃ t, c.text names false = .ok t ∧
      text = (if first then "if " else "\x7d else if ") ++ t ++ " \x7b"
  | otherwise,      text => text = "\x7d else \x7b"
  | switch e,       text =>
    ∃ ty t, e.types = [ty] ∧ e.text names false = .ok t ∧
      text = "switch_" ++ ty.literal ++ " (" ++ t ++ ") \x7b"
  | case e ns,      text =>
    ∃ ty ts, e.types = [ty] ∧ ns.mapM (ty.intText names) = .ok ts ∧
      text = "case " ++ ", ".intercalate ts ++ " :"
  | default,        text => text = "case default :"
  | close,          text => text = "\x7d"

def Slot.Holds (names : Names) (s : Slot) (l : Line) : Prop :=
  l.depth = s.depth ∧ s.role.Fits names l.text

def Line.sink (levels : Nat) (l : Line) : Line :=
  { l with depth := l.depth + levels }

theorem Line.map_sink_zero (ls : List Line) : ls.map (Line.sink 0) = ls :=
  List.map_id ls

theorem Line.map_sink_deeper (levels : Nat) (ls : List Line) :
    (ls.map Line.deeper).map (Line.sink levels) = ls.map (Line.sink (levels + 1)) := by
  simp only [List.map_map]
  exact List.map_congr_left fun l _ => by simp [sink, deeper, Nat.add_assoc, Nat.add_comm 1]

theorem Role.fits_statement {i : Instruction} {t : String} (h : i.text names declared = .ok t) :
    (Role.statement i).Fits names t := by
  refine ⟨⟨_, h⟩, ?_⟩
  cases i <;> simp only [Instruction.text, bind_eq_ok_iff] at h
  case assign =>
    obtain ⟨_, _, _, _, h⟩ := h
    exact ⟨_, (Except.ok.inj h).symm⟩
  case ret =>
    obtain ⟨_, _, h⟩ := h
    exact ⟨_, (Except.ok.inj h).symm⟩

-- The lines of some slots. Each statement is spelled with what is declared in front of it.
inductive Spells (names : Names) : List Variable → List Slot → List Line → Prop
  | nil : Spells names declared [] []
  | statement (text : i.text names declared = .ok t)
    (rest : Spells names (targetsOf [i] ++ declared) slots ls) :
    Spells names declared (⟨depth, .statement i⟩ :: slots) (⟨depth, t⟩ :: ls)
  | other (role : s.role.instruction? = none) (holds : s.Holds names l)
    (rest : Spells names declared slots ls) : Spells names declared (s :: slots) (l :: ls)

namespace Spells

variable {names : Names} {declared declared' : List Variable}
variable {slots slots₁ slots₂ : List Slot} {ls ls₁ ls₂ : List Line}

theorem congr (h : Spells names declared slots ls) (hd : ∀ v, v ∈ declared ↔ v ∈ declared') :
    Spells names declared' slots ls := by
  induction h generalizing declared'
  case nil => exact nil
  case statement ht _ hi =>
    apply statement (Instruction.text_congr hd ▸ ht)
    apply hi
    simp [hd]
  case other hr hh _ hi => exact other hr hh (hi hd)

theorem append (h₁ : Spells names declared slots₁ ls₁) (hs : statements slots₁ = is)
    (h₂ : Spells names (targetsOf is ++ declared) slots₂ ls₂) :
    Spells names declared (slots₁ ++ slots₂) (ls₁ ++ ls₂) := by
  subst hs
  induction h₁
  case nil => exact h₂
  case statement i _ _ slots _ _ ht _ hi =>
    apply statement ht
    apply hi
    exact h₂.congr (mem_targetsOf_append [i] _ _)
  case other hr hh _ hi =>
    apply other hr hh
    apply hi
    rwa [statements_cons hr] at h₂

theorem holds (h : Spells names declared slots ls) :
    List.Forall₂ (Slot.Holds names) slots ls := by
  induction h
  case nil               => exact .nil
  case statement ht _ hi => exact .cons ⟨rfl, Role.fits_statement ht⟩ hi
  case other hh _ hi     => exact .cons hh hi

end Spells

-- The lines of a part, sunk to the depth at which it stands, spell its slots.
def SpellsAt (names : Names) (declared : List Variable) (depth : Nat) (slots : List Slot)
    (ls : List Line) : Prop :=
  Spells names declared slots (ls.map (Line.sink depth))

namespace SpellsAt

variable {names : Names} {declared : List Variable} {depth : Nat}
variable {slots slots₁ slots₂ : List Slot} {ls ls₁ ls₂ : List Line} {role : Role} {t : String}

theorem append (h₁ : SpellsAt names declared depth slots₁ ls₁) (hs : statements slots₁ = is)
    (h₂ : SpellsAt names (targetsOf is ++ declared) depth slots₂ ls₂) :
    SpellsAt names declared depth (slots₁ ++ slots₂) (ls₁ ++ ls₂) := by
  rw [SpellsAt, List.map_append]
  exact Spells.append h₁ hs h₂

theorem statement (h : i.text names declared = .ok t)
    (hs : SpellsAt names (targetsOf [i] ++ declared) depth slots ls) :
    SpellsAt names declared depth (⟨depth, .statement i⟩ :: slots) (.flat t :: ls) := by
  have hd : (Line.flat t).sink depth = ⟨depth, t⟩ := congrArg (Line.mk · t) (Nat.zero_add depth)
  rw [SpellsAt, List.map_cons, hd]
  exact .statement h hs

theorem cons (hr : role.instruction? = none) (h : role.Fits names t)
    (hs : SpellsAt names declared depth slots ls) :
    SpellsAt names declared depth (⟨depth, role⟩ :: slots) (.flat t :: ls) :=
  .other hr ⟨Nat.zero_add _, h⟩ hs

theorem single (hr : role.instruction? = none) (h : role.Fits names t) :
    SpellsAt names declared depth [⟨depth, role⟩] [.flat t] :=
  cons hr h Spells.nil

theorem deeper (h : SpellsAt names declared (depth + 1) slots ls) :
    SpellsAt names declared depth slots (ls.map .deeper) := by
  rw [SpellsAt, Line.map_sink_deeper]
  exact h

end SpellsAt

theorem runLines_spell {is : List Instruction} (h : runLines names declared is = .ok ls) :
    SpellsAt names declared depth (is.map fun i => ⟨depth, .statement i⟩) ls := by
  induction is generalizing declared ls
  case nil =>
    cases h
    exact Spells.nil
  case cons i is hi =>
    simp only [runLines, bind_eq_ok_iff] at h
    obtain ⟨t, ht, ls, hl, h⟩ := h
    cases h
    exact .statement ht (hi hl)

mutual

theorem Chain.lines_spell : (c : Chain) → ∀ {names declared depth ls},
    c.lines names declared = .ok ls → SpellsAt names declared depth (c.layout depth) ls
  | .last c,      _, _, _, _, h => c.lines_spell h
  | .link c rest, _, _, _, _, h => by
    simp only [Chain.lines, bind_eq_ok_iff] at h
    have ⟨first, hf, others, ho, h⟩ := h
    cases h
    exact (c.lines_spell hf).append c.statements_layout (rest.lines_spell ho)

theorem Construct.lines_spell : (c : Construct) → ∀ {names declared depth ls},
    c.lines names declared = .ok ls → SpellsAt names declared depth (c.layout depth) ls
  | .seq _,       _, _, _, _, h => runLines_spell h
  | .cond bs,     _, _, _, _, h => by
    simp only [Construct.lines, bind_eq_ok_iff] at h
    have ⟨_, _, h⟩ := h
    exact bs.lines_spell h
  | .loop c body, _, _, _, _, h => by
    simp only [Construct.lines, bind_eq_ok_iff] at h
    have ⟨t, ht, inside, hi, h⟩ := h
    cases h
    exact .append (.cons rfl ⟨t, ht, rfl⟩ (body.lines_spell hi).deeper) rfl (.single rfl rfl)
  | .switch e cs, _, _, _, _, h => by
    simp only [Construct.lines, bind_eq_ok_iff, Expression.soleType_eq_ok_iff] at h
    have ⟨ty, hty, t, ht, inside, hi, h⟩ := h
    cases h
    exact .append (.cons rfl ⟨ty, t, hty, ht, rfl⟩ (cs.lines_spell hty hi).deeper) rfl
      (.single rfl rfl)

theorem Branches.lines_spell : (bs : Branches) → ∀ {names declared first depth ls},
    bs.lines names declared (if first then "if " else "\x7d else if ") = .ok ls →
      SpellsAt names declared depth (bs.layout depth first ++ [⟨depth, .close⟩]) ls
  | .done,               _, _, _, _, _, h => by
    cases h
    exact .single rfl rfl
  | .otherwise body,     _, _, _, _, _, h => by
    simp only [Branches.lines, bind_eq_ok_iff] at h
    have ⟨inside, hi, h⟩ := h
    cases h
    exact .append (.cons rfl rfl (body.lines_spell hi).deeper) rfl (.single rfl rfl)
  | .branch c body rest, _, _, _, _, _, h => by
    simp only [Branches.lines, bind_eq_ok_iff] at h
    have ⟨t, ht, inside, hi, others, ho, h⟩ := h
    cases h
    rw [Branches.layout, List.append_assoc]
    exact .append (.cons rfl ⟨t, ht, rfl⟩ (body.lines_spell hi).deeper)
      ((statements_cons rfl).trans body.statements_layout) (rest.lines_spell ho)

theorem Cases.lines_spell : (cs : Cases) → ∀ {names declared e ty depth ls},
    e.types = [ty] → cs.lines names declared ty = .ok ls →
      SpellsAt names declared depth (cs.layout depth e) ls
  | .done,              _, _, _, _, _, _, _,   h => by
    cases h
    exact Spells.nil
  | .otherwise body,    _, _, _, _, _, _, _,   h => by
    simp only [Cases.lines, bind_eq_ok_iff] at h
    have ⟨inside, hi, h⟩ := h
    cases h
    exact .cons rfl rfl (body.lines_spell hi).deeper
  | .case ns body rest, _, _, _, _, _, _, hty, h => by
    rw [Cases.lines] at h
    split at h
    case isTrue  => exact nomatch h
    case isFalse =>
      simp only [bind_eq_ok_iff] at h
      have ⟨ts, ht, inside, hi, others, ho, h⟩ := h
      cases h
      exact .append (.cons rfl ⟨_, ts, hty, ht, rfl⟩ (body.lines_spell hi).deeper)
        ((statements_cons rfl).trans body.statements_layout) (rest.lines_spell hty ho)

end

theorem Item.lines_spell {i : Item} (h : i.lines names declared = .ok ls) :
    SpellsAt names declared depth (i.layout depth) ls := by
  cases i
  case instruction i =>
    simp only [lines, bind_eq_ok_iff] at h
    obtain ⟨t, ht, h⟩ := h
    cases h
    exact .statement ht Spells.nil
  case block c => exact c.lines_spell h

theorem itemLines_spell {is : List Item} (h : itemLines names declared is = .ok ls) :
    SpellsAt names declared depth (is.flatMap (Item.layout depth)) ls := by
  induction is generalizing declared ls
  case nil =>
    cases h
    exact Spells.nil
  case cons i is hi =>
    simp only [itemLines, bind_eq_ok_iff] at h
    obtain ⟨first, hf, others, ho, h⟩ := h
    cases h
    exact (Item.lines_spell hf).append i.statements_layout (hi ho)

end ClientScript
