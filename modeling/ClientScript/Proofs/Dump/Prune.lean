import ClientScript.Dump
import ClientScript.Pipeline
import ClientScript.Proofs.Runs

namespace ClientScript

-- A line of a dump. It shows an instruction, or something that stays in place when instructions go.
inductive Dumped
  | instruction (depth : Nat) (i : Instruction)
  | other (l : Line)

namespace Dumped

def line : Dumped → Line
  | instruction depth i => { depth, text := i.dump }
  | other l             => l

def instruction? : Dumped → Option Instruction
  | instruction _ i => some i
  | other _         => none

def deeper : Dumped → Dumped
  | instruction depth i => instruction (depth + 1) i
  | other l             => other l.deeper

def isDiscard (d : Dumped) : Bool :=
  d.instruction?.any (·.isDiscard)

theorem line_deeper (d : Dumped) : d.deeper.line = d.line.deeper := by
  cases d <;> rfl

theorem instruction?_deeper (d : Dumped) : d.deeper.instruction? = d.instruction? := by
  cases d <;> rfl

variable {ds : List Dumped}

theorem map_line_deeper : (ds.map deeper).map line = (ds.map line).map Line.deeper := by
  simp [line_deeper]

theorem filterMap_deeper : (ds.map deeper).filterMap instruction? = ds.filterMap instruction? := by
  rw [List.filterMap_map]
  exact congrArg (List.filterMap · ds) (funext instruction?_deeper)

theorem filter_deeper :
    (ds.map deeper).filter (!·.isDiscard) = (ds.filter (!·.isDiscard)).map deeper := by
  simp [List.filter_map, Function.comp_def, isDiscard, instruction?_deeper]

theorem filter_run (depth : Nat) (is : List Instruction) :
    (is.map (instruction depth)).filter (!·.isDiscard) =
      (is.filter fun i => !i.isDiscard).map (instruction depth) :=
  List.filter_map

theorem filter_other_cons (l : Line) :
    (other l :: ds).filter (!·.isDiscard) = other l :: ds.filter (!·.isDiscard) :=
  rfl

end Dumped

mutual

def Chain.dumped : Chain → List Dumped
  | .last c      => c.dumped
  | .link c rest => c.dumped ++ rest.dumped

def Construct.dumped : Construct → List Dumped
  | .seq is      => is.map (.instruction 0)
  | .cond bs     => bs.dumped "if"
  | .loop c body => .other (.flat ("while " ++ c.dump)) :: body.dumped.map .deeper
  | .switch e cs => .other (.flat ("switch " ++ e.dump)) :: cs.dumped

def Branches.dumped (keyword : String) : Branches → List Dumped
  | .done               => []
  | .otherwise body     => .other (.flat "else") :: body.dumped.map .deeper
  | .branch c body rest =>
    .other (.flat (keyword ++ " " ++ c.dump)) :: body.dumped.map .deeper ++ rest.dumped "elif"

def Cases.dumped : Cases → List Dumped
  | .done              => []
  | .otherwise body    => .other (.flat "default") :: body.dumped.map .deeper
  | .case ns body rest =>
    .other (.flat ("case " ++ dumpLabels ns)) :: body.dumped.map .deeper ++ rest.dumped

end

mutual

theorem Chain.map_line_dumped : (c : Chain) → c.dumped.map Dumped.line = c.dumpLines
  | .last c      => c.map_line_dumped
  | .link c rest => by
    rw [Chain.dumped, List.map_append, c.map_line_dumped, rest.map_line_dumped, Chain.dumpLines]

theorem Construct.map_line_dumped : (c : Construct) → c.dumped.map Dumped.line = c.dumpLines
  | .seq is      => List.map_map
  | .cond bs     => bs.map_line_dumped
  | .loop c body => by
    rw [Construct.dumped, List.map_cons, Dumped.map_line_deeper, body.map_line_dumped,
      Construct.dumpLines, Dumped.line]
  | .switch e cs => by
    rw [Construct.dumped, List.map_cons, cs.map_line_dumped, Construct.dumpLines, Dumped.line]

theorem Branches.map_line_dumped : (bs : Branches) → ∀ {keyword},
    (bs.dumped keyword).map Dumped.line = bs.dumpLines keyword
  | .done,               _ => rfl
  | .otherwise body,     _ => by
    rw [Branches.dumped, List.map_cons, Dumped.map_line_deeper, body.map_line_dumped,
      Branches.dumpLines, Dumped.line]
  | .branch c body rest, _ => by
    rw [Branches.dumped, List.map_append, List.map_cons, Dumped.map_line_deeper,
      body.map_line_dumped, rest.map_line_dumped, Branches.dumpLines, Dumped.line]

theorem Cases.map_line_dumped : (cs : Cases) → cs.dumped.map Dumped.line = cs.dumpLines
  | .done              => rfl
  | .otherwise body    => by
    rw [Cases.dumped, List.map_cons, Dumped.map_line_deeper, body.map_line_dumped, Cases.dumpLines,
      Dumped.line]
  | .case ns body rest => by
    rw [Cases.dumped, List.map_append, List.map_cons, Dumped.map_line_deeper, body.map_line_dumped,
      rest.map_line_dumped, Cases.dumpLines, Dumped.line]

end

mutual

theorem Chain.instructions_dumped : (c : Chain) →
    c.dumped.filterMap Dumped.instruction? = c.instructions
  | .last c      => c.instructions_dumped
  | .link c rest => by
    rw [Chain.dumped, List.filterMap_append, c.instructions_dumped, rest.instructions_dumped,
      Chain.instructions]

theorem Construct.instructions_dumped : (c : Construct) →
    c.dumped.filterMap Dumped.instruction? = c.instructions
  | .seq is      => by
    rw [Construct.dumped, List.filterMap_map, Construct.instructions]
    exact List.filterMap_some
  | .cond bs     => bs.instructions_dumped
  | .loop _ body => Dumped.filterMap_deeper.trans body.instructions_dumped
  | .switch _ cs => cs.instructions_dumped

theorem Branches.instructions_dumped : (bs : Branches) → ∀ {keyword},
    (bs.dumped keyword).filterMap Dumped.instruction? = bs.instructions
  | .done,               _ => rfl
  | .otherwise body,     _ => Dumped.filterMap_deeper.trans body.instructions_dumped
  | .branch c body rest, _ => by
    rw [Branches.dumped, List.cons_append, List.filterMap_cons_none rfl, List.filterMap_append,
      Dumped.filterMap_deeper, body.instructions_dumped, rest.instructions_dumped,
      Branches.instructions]

theorem Cases.instructions_dumped : (cs : Cases) →
    cs.dumped.filterMap Dumped.instruction? = cs.instructions
  | .done              => rfl
  | .otherwise body    => Dumped.filterMap_deeper.trans body.instructions_dumped
  | .case ns body rest => by
    rw [Cases.dumped, List.cons_append, List.filterMap_cons_none rfl, List.filterMap_append,
      Dumped.filterMap_deeper, body.instructions_dumped, rest.instructions_dumped,
      Cases.instructions]

end

mutual

theorem Chain.dumped_prune : (c : Chain) → c.prune.rest.dumped = c.dumped.filter (!·.isDiscard)
  | .last c      => c.dumped_prune
  | .link c rest => by
    rw [Chain.prune, Pruned.both, Chain.dumped, c.dumped_prune, rest.dumped_prune, Chain.dumped,
      List.filter_append]

theorem Construct.dumped_prune : (c : Construct) →
    c.prune.rest.dumped = c.dumped.filter (!·.isDiscard)
  | .seq is      => (Dumped.filter_run 0 is).symm
  | .cond bs     => bs.dumped_prune
  | .loop c body => by
    rw [Construct.dumped, Dumped.filter_other_cons, Dumped.filter_deeper, ← body.dumped_prune]
    rfl
  | .switch e cs => by
    rw [Construct.dumped, Dumped.filter_other_cons, ← cs.dumped_prune]
    rfl

theorem Branches.dumped_prune : (bs : Branches) → ∀ {keyword},
    bs.prune.rest.dumped keyword = (bs.dumped keyword).filter (!·.isDiscard)
  | .done,               _ => rfl
  | .otherwise body,     _ => by
    rw [Branches.dumped, Dumped.filter_other_cons, Dumped.filter_deeper, ← body.dumped_prune]
    rfl
  | .branch c body rest, _ => by
    rw [Branches.dumped, List.filter_append, Dumped.filter_other_cons, Dumped.filter_deeper,
      ← body.dumped_prune, ← rest.dumped_prune]
    rfl

theorem Cases.dumped_prune : (cs : Cases) → cs.prune.rest.dumped = cs.dumped.filter (!·.isDiscard)
  | .done              => rfl
  | .otherwise body    => by
    rw [Cases.dumped, Dumped.filter_other_cons, Dumped.filter_deeper, ← body.dumped_prune]
    rfl
  | .case ns body rest => by
    rw [Cases.dumped, List.filter_append, Dumped.filter_other_cons, Dumped.filter_deeper,
      ← body.dumped_prune, ← rest.dumped_prune]
    rfl

end

namespace Script

variable {s : Script}

def dumped (s : Script) : List Dumped :=
  .other (.flat s.dumpHeader) :: s.body.dumped.map .deeper

theorem dump_eq : s.dump = String.join (s.dumped.map fun d => d.line.render "  " ++ "\n") := by
  have hl : s.dumpLines = s.dumped.map Dumped.line := by
    rw [dumped, List.map_cons, Dumped.map_line_deeper, Chain.map_line_dumped, dumpLines, Dumped.line]
  rw [dump, hl, List.map_map]
  rfl

theorem instructions_dumped : s.dumped.filterMap Dumped.instruction? = s.instructions :=
  Dumped.filterMap_deeper.trans s.body.instructions_dumped

theorem dumped_prune : s.prune.rest.dumped = s.dumped.filter (!·.isDiscard) := by
  rw [dumped, dumped, Dumped.filter_other_cons, Dumped.filter_deeper, ← s.body.dumped_prune]
  rfl

theorem prune_prune_eq_intact : s.prune.rest.prune = .intact s.prune.rest := by
  have hr : s.prune.rest.prune.removed = 0 := s.prune.rest.removed_prune.trans s.countP_prune
  change Pruned.mk s.prune.rest.prune.rest s.prune.rest.prune.removed = _
  rw [hr, s.prune_prune, Pruned.intact]

end Script

theorem Module.changed_deleteNops_iff {m : Module} : (Pass.deleteNops.apply m).changed ↔
    ∃ s ∈ m.scripts, ∃ i ∈ s.instructions, i.isDiscard := by
  refine decide_eq_true_iff.trans ?_
  rw [removed_prune, List.countP_pos_iff]
  constructor
  case mp  =>
    rintro ⟨i, hi, hd⟩
    obtain ⟨s, hs, hi⟩ := List.mem_flatMap.mp hi
    exact ⟨s, hs, i, hi, hd⟩
  case mpr =>
    rintro ⟨s, hs, i, hi, hd⟩
    exact ⟨i, List.mem_flatMap_of_mem hs hi, hd⟩

-- Pruning takes the discards out of a script, out of its runs and out of its dump. It counts them, it
-- touches nothing else, and it leaves nothing for a second time.
theorem Script.prune_takes_discards (s : Script) :
    s.prune.rest.instructions = s.instructions.filter (fun i => !i.isDiscard) ∧
    s.prune.removed = (s.instructions.filter (·.isDiscard)).length ∧
    s.prune.rest = { s with body := s.prune.rest.body } ∧
    (∀ b : Chain, b = s.prune.rest.body ↔
      b.hollow = s.body.hollow ∧ b.runs = s.body.runs.map (·.filter fun i => !i.isDiscard)) ∧
    s.dumped.filterMap Dumped.instruction? = s.instructions ∧
    s.dump = String.join (s.dumped.map fun d => d.line.render "  " ++ "\n") ∧
    s.prune.rest.dump =
      String.join ((s.dumped.filter (!·.isDiscard)).map fun d => d.line.render "  " ++ "\n") ∧
    s.prune.rest.prune = .intact s.prune.rest ∧
    ∀ m : Module,
      (Pass.deleteNops.apply m).rest = { m with scripts := m.scripts.map (·.prune.rest) } ∧
      ((Pass.deleteNops.apply m).changed ↔
        ∃ t ∈ m.scripts, ∃ i ∈ t.instructions, i.isDiscard) :=
  ⟨instructions_prune, removed_prune.trans List.countP_eq_length_filter, rfl,
    fun _ => Chain.eq_rest_prune_iff, instructions_dumped, dump_eq,
    dump_eq.trans (by rw [dumped_prune]), prune_prune_eq_intact,
    fun _ => ⟨Module.rest_prune, Module.changed_deleteNops_iff⟩⟩

end ClientScript
