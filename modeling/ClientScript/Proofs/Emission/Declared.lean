import ClientScript.Emission.Lines
import ClientScript.Proofs.Outcome

namespace ClientScript

-- Behind two runs the same locals are declared, whether they are one run or not.
theorem mem_targetsOf_append (is js : List Instruction) (declared : List Variable) :
    ∀ v, v ∈ targetsOf (is ++ js) ++ declared ↔ v ∈ targetsOf js ++ (targetsOf is ++ declared) := by
  intro v
  simp only [targetsOf, List.filterMap_append, List.mem_append]
  exact or_assoc.trans or_left_comm

theorem mem_targetsOf_append_congr {is : List Instruction} (h : ∀ v, v ∈ declared ↔ v ∈ declared') :
    ∀ v, v ∈ targetsOf is ++ declared ↔ v ∈ targetsOf is ++ declared' := by
  simp [h]

-- The text of an instruction depends on which locals are declared, and not on their order.
theorem Instruction.text_congr {i : Instruction} (h : ∀ v, v ∈ declared ↔ v ∈ declared') :
    i.text names declared = i.text names declared' := by
  cases i
  case ret value       => rfl
  case assign vs value =>
    have ht : targetsText declared vs = targetsText declared' vs := by
      rcases vs with _ | ⟨v, _ | ⟨w, vs⟩⟩
      · rfl
      · simp only [targetsText, h]
      · rfl
    rw [text, text, ht]

theorem runLines_congr {is : List Instruction} (h : ∀ v, v ∈ declared ↔ v ∈ declared') :
    runLines names declared is = runLines names declared' is := by
  induction is generalizing declared declared'
  case nil => rfl
  case cons i is hi =>
    rw [runLines, runLines, Instruction.text_congr h, hi (mem_targetsOf_append_congr h)]

mutual

theorem Chain.lines_congr : (c : Chain) → ∀ {names declared declared'},
    (∀ v, v ∈ declared ↔ v ∈ declared') → c.lines names declared = c.lines names declared'
  | .last c,      _, _, _, h => by rw [Chain.lines, Chain.lines, c.lines_congr h]
  | .link c rest, _, _, _, h => by
    rw [Chain.lines, Chain.lines, c.lines_congr h, rest.lines_congr (mem_targetsOf_append_congr h)]

theorem Construct.lines_congr : (c : Construct) → ∀ {names declared declared'},
    (∀ v, v ∈ declared ↔ v ∈ declared') → c.lines names declared = c.lines names declared'
  | .seq is,      _, _, _, h => by rw [Construct.lines, Construct.lines, runLines_congr h]
  | .cond bs,     _, _, _, h => by rw [Construct.lines, Construct.lines, bs.lines_congr h]
  | .loop c body, _, _, _, h => by rw [Construct.lines, Construct.lines, body.lines_congr h]
  | .switch e cs, _, _, _, h => by
    rw [Construct.lines, Construct.lines]
    simp only [cs.lines_congr h]

theorem Branches.lines_congr : (bs : Branches) → ∀ {names declared declared' lead},
    (∀ v, v ∈ declared ↔ v ∈ declared') →
      bs.lines names declared lead = bs.lines names declared' lead
  | .done,               _, _, _, _, _ => by rw [Branches.lines, Branches.lines]
  | .otherwise body,     _, _, _, _, h => by rw [Branches.lines, Branches.lines, body.lines_congr h]
  | .branch c body rest, _, _, _, _, h => by
    rw [Branches.lines, Branches.lines, body.lines_congr h,
      rest.lines_congr (mem_targetsOf_append_congr h)]

theorem Cases.lines_congr : (cs : Cases) → ∀ {names declared declared' ty},
    (∀ v, v ∈ declared ↔ v ∈ declared') → cs.lines names declared ty = cs.lines names declared' ty
  | .done,                  _, _, _, _, _ => by rw [Cases.lines, Cases.lines]
  | .otherwise body,        _, _, _, _, h => by rw [Cases.lines, Cases.lines, body.lines_congr h]
  | .case labels body rest, _, _, _, _, h => by
    rw [Cases.lines, Cases.lines, body.lines_congr h,
      rest.lines_congr (mem_targetsOf_append_congr h)]

end

theorem runLines_append (is js : List Instruction) :
    runLines names declared (is ++ js) = do
      let first ← runLines names declared is
      let others ← runLines names (targetsOf is ++ declared) js
      return first ++ others := by
  induction is generalizing declared
  case nil          => cases h : runLines names declared js <;> simp [runLines, targetsOf, h]
  case cons i is hi =>
    have hd := fun v => (mem_targetsOf_append [i] is declared v).symm
    rw [List.cons_append, runLines, runLines, hi, runLines_congr hd]
    simp

end ClientScript
