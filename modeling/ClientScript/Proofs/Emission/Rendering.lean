import ClientScript.Proofs.Emission.Declaration
import ClientScript.Proofs.Emission.Wording

namespace ClientScript

open List (Forall₂)
open Expression (Reads)

-- The text of a line, by what the expressions read that are written in it. None of them stands inside
-- of arithmetic.
inductive Role.Renders (names : Names) : Role → String → Prop
  | assign {value : Expression} (targets : Instruction.targetsText declared vs = .ok t)
    (reads : value.Reads names false s) :
    Renders names (.statement (.assign vs value)) (t ++ s ++ ";")
  | ret {value : Expression} (operands : Forall₂ (Reads names false) value.toList ts) :
    Renders names (.statement (.ret value)) ("return" ++ enclosed "(" ")" ts ++ ";")
  | loop {c : Expression} (condition : c.Reads names false s) :
    Renders names (.loop c) ("while " ++ s ++ " \x7b")
  | branch {c : Expression} (condition : c.Reads names false s) :
    Renders names (.branch first c) ((if first then "if " else "\x7d else if ") ++ s ++ " \x7b")
  | otherwise : Renders names .otherwise "\x7d else \x7b"
  | switch {e : Expression} (types : e.types = [ty]) (scrutinee : e.Reads names false s) :
    Renders names (.switch e) ("switch_" ++ ty.literal ++ " (" ++ s ++ ") \x7b")
  | case {e : Expression} (types : e.types = [ty])
    (labels : Forall₂ (fun n t => ty.intText names n = .ok t) ns ts) :
    Renders names (.case e ns) ("case " ++ ", ".intercalate ts ++ " :")
  | default : Renders names .default "case default :"
  | close : Renders names .close "\x7d"

structure Slot.Shows (names : Names) (s : Slot) (l : Line) : Prop where
  depth : l.depth = s.depth
  text  : s.role.Renders names l.text

def Role.written : Role → List Expression
  | statement (.assign _ value) => [value]
  | statement (.ret value)      => value.toList
  | loop c                      => [c]
  | branch _ c                  => [c]
  | switch e                    => [e]
  | _                           => []

theorem Instruction.renders {i : Instruction} {text : String}
    (h : i.text names declared = .ok text) : (Role.statement i).Renders names text := by
  cases i <;> simp only [Instruction.text, bind_eq_ok_iff] at h
  case assign vs value =>
    obtain ⟨t, ht, s, hs, h⟩ := h
    obtain rfl := Except.ok.inj h
    exact .assign ht hs
  case ret value       =>
    obtain ⟨s, hs, h⟩ := h
    obtain rfl := Except.ok.inj h
    obtain ⟨ts, hr, rfl⟩ := Operand.grouped_eq_ok_iff.mp hs
    exact .ret hr

theorem Role.renders_of_fits {role : Role} {text : String} (h : role.Fits names text) :
    role.Renders names text := by
  cases role
  case statement i    =>
    obtain ⟨⟨declared, h⟩, _⟩ := h
    exact i.renders h
  case loop c         =>
    obtain ⟨s, hs, rfl⟩ := h
    exact .loop hs
  case branch first c =>
    obtain ⟨s, hs, rfl⟩ := h
    exact .branch hs
  case otherwise      => exact h ▸ .otherwise
  case switch e       =>
    obtain ⟨ty, s, ht, hs, rfl⟩ := h
    exact .switch ht hs
  case case e ns      =>
    obtain ⟨ty, ts, ht, hs, rfl⟩ := h
    exact .case ht (mapM_eq_ok_iff.mp hs)
  case default        => exact h ▸ .default
  case close          => exact h ▸ .close

theorem Script.emit_renders {s : Script} {unit text : String} (h : s.emit names unit = .ok text) :
    ∃ header ls, s.signature names = .ok header ∧
      text = "// " ++ toString s.id.toInt ++ "\n" ++ header ++
        String.join (ls.map fun l => "\n" ++ l.render unit) ++ "\n" ∧
      Forall₂ (Slot.Shows names) s.layout ls := by
  obtain ⟨header, ls, hh, ht, hs, _⟩ := emit_spells h
  exact ⟨header, ls, hh, ht, hs.holds.imp fun _ _ hl => ⟨hl.left, Role.renders_of_fits hl.right⟩⟩

end ClientScript
