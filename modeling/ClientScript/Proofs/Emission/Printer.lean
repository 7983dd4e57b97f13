import ClientScript.Proofs.Emission.Declared
import ClientScript.Proofs.Emission.Printing
import ClientScript.Proofs.Emission.Progress
import Mathlib.Data.Finset.Lattice.Lemmas

namespace ClientScript

-- Lines in a place that is nested itself. Each of them begins with a line break.
def placedText (unit : String) (depth : Nat) (ls : List Line) : String :=
  String.join (ls.map fun l =>
    "\n" ++ String.join (List.replicate (depth + l.depth) unit) ++ l.text)

theorem placedText_append (unit : String) (depth : Nat) (ls ms : List Line) :
    placedText unit depth (ls ++ ms) = placedText unit depth ls ++ placedText unit depth ms := by
  simp [placedText, String.join_append]

theorem placedText_deeper (unit : String) (depth : Nat) (ls : List Line) :
    placedText unit depth (ls.map .deeper) = placedText unit (depth + 1) ls := by
  simp only [placedText, List.map_map]
  congr 2
  funext l
  simp only [Function.comp_apply, Line.deeper_depth, Line.deeper_text]
  rw [Nat.add_right_comm, Nat.add_assoc]

namespace Printer

def declaring (is : List Instruction) (p : Printer) : Printer :=
  { p with declared := (targetsOf is).toFinset ∪ p.declared }

-- A printer behind lines that declare what some instructions assign alone.
def after (unit : String) (is : List Instruction) (ls : List Line) (p : Printer) : Printer :=
  (p.add (placedText unit p.indents ls)).declaring is

theorem declaring_add (p : Printer) (s : String) :
    (p.declaring is).add s = (p.add s).declaring is :=
  rfl

theorem declaring_of_mem {p : Printer} (h : ∀ v ∈ targetsOf is, v ∈ p.declared) :
    p.declaring is = p := by
  rw [declaring, Finset.union_eq_right.mpr]
  exact fun v hv => h v (List.mem_toFinset.mp hv)

theorem declaring_nil (p : Printer) : p.declaring [] = p :=
  declaring_of_mem fun _ h => nomatch h

theorem after_nil (p : Printer) : p.after unit [] [] = p := by
  rw [after, declaring_nil]
  exact add_empty p

theorem after_flat (p : Printer) (s : String) : p.after unit is [.flat s] =
    (p.add ("\n" ++ String.join (List.replicate p.indents unit) ++ s)).declaring is := by
  simp [after, placedText, Line.flat]

theorem after_after (p : Printer) :
    (p.after unit is ls).after unit js ms = p.after unit (is ++ js) (ls ++ ms) := by
  simp only [after, add, declaring, placedText_append, targetsOf, List.filterMap_append,
    List.toFinset_append, String.append_assoc, ← Finset.union_assoc]
  rw [Finset.union_comm (List.toFinset _)]

theorem mem_declared_after {p : Printer} {declared : List Variable}
    (h : ∀ v, v ∈ declared ↔ v ∈ p.declared) :
    ∀ v, v ∈ targetsOf is ++ declared ↔ v ∈ (p.after unit is ls).declared := by
  simp [after, add, declaring, h]

theorem run_nextLine (p : Printer) : (nextLine unit).run p =
    .ok ((), p.add ("\n" ++ String.join (List.replicate p.indents unit))) := by
  rw [add, ← String.append_assoc]
  rfl

theorem run_line {p : Printer} (h : p.fellOff = false) : (line unit).run p =
    .ok ((), p.add ("\n" ++ String.join (List.replicate p.indents unit))) := by
  rw [← run_nextLine]
  simp [line, h]

theorem run_line_ended {p : Printer} (h : p.fellOff) :
    (line unit).run p = .error .statementAfterReturn := by
  simp only [line, StateT.run_bind, StateT.run_get, pure_bind, if_pos h]
  rfl

-- Something that adds to the line that is begun, at some depth or deeper. What is declared before it
-- is what is declared in the printer.
def Writes (depth : Nat) (x : Printing Unit) (is : List Instruction)
    (t : List Variable → Except EmitError String) : Prop :=
  ∀ (p : Printer) (declared : List Variable), depth ≤ p.indents → p.inCalc = false →
    (∀ v, v ∈ declared ↔ v ∈ p.declared) →
      x.run p = t declared >>= fun s => .ok ((), (p.add s).declaring is)

theorem Prints.writes {x : Printing Unit} {t : Except EmitError String} (h : Prints false x t) :
    Writes depth x [] fun _ => t := by
  intro p _ _ hc _
  rw [h p hc]
  exact bind_congr fun s => by rw [declaring_nil]

theorem Writes.append {x y : Printing Unit} {u : Except EmitError String}
    (hx : Writes depth x is t) (hy : Prints false y u) :
    Writes depth (do x; y) is fun declared => joinTexts (t declared) u := by
  intro p declared hd hc hv
  rw [StateT.run_bind, hx p declared hd hc hv]
  beta_reduce
  cases t declared
  case error e => rfl
  case ok s    =>
    rw [ok_bind, ok_bind, hy ((p.add s).declaring is) hc]
    cases u
    case error e => rfl
    case ok r    =>
      rw [ok_bind, declaring_add, add_add]
      rfl

theorem Writes.congr (h : Writes depth x is t) (ht : ∀ declared, t declared = u declared) :
    Writes depth x is u :=
  funext ht ▸ h

theorem run_writeDeclaration (v : Variable) (p : Printer) : (writeDeclaration v).run p = .ok ((),
    if v.kind = .frame ∧ v ∉ p.declared then
      { p with declared := insert v p.declared }.add ("def_" ++ v.ty.literal ++ " ")
    else p) := by
  simp only [writeDeclaration, StateT.run_bind, StateT.run_get, pure_bind]
  split <;> rfl

theorem writeDeclaration_writes (v : Variable) (value : Expression) :
    Writes depth (writeDeclaration v) [.assign [v] value] fun declared => pure <|
      if v.kind = .frame ∧ v ∉ declared then "def_" ++ v.ty.literal ++ " " else "" := by
  intro p declared _ _ hv
  simp only [run_writeDeclaration, hv]
  split
  case isTrue h  => simp [declaring, targetsOf, Instruction.target?, h.left, add]
  case isFalse h =>
    have hd : ∀ w ∈ targetsOf [.assign [v] value], w ∈ p.declared := by
      simp_all [targetsOf, Instruction.target?]
    rw [pure_bind, add_empty, declaring_of_mem hd]

theorem writeTargets_writes (vs : List Variable) (value : Expression) :
    Writes depth (writeTargets vs) [.assign vs value] fun declared =>
      Instruction.targetsText declared vs := by
  match vs with
  | []           => exact Prints.nothing.writes
  | v :: w :: vs =>
    exact ((Prints.separated_map writeVariable_prints _).append (.push " = ")).writes
  | [v]          =>
    refine ((writeDeclaration_writes v value).append
      ((writeVariable_prints v).append (.push " = "))).congr fun declared => ?_
    simp [joinTexts, Instruction.targetsText, String.append_assoc]

variable {s : Script} {names : Names}

theorem writeReturn_prints (value : Expression) (declared : List Variable) :
    Prints false (writeReturn names value) ((Instruction.ret value).text names declared) := by
  refine ((Prints.push "return").append
    ((writeGrouped_prints (arguments_like value.toList)).append (.push ";"))).congr ?_
  simp [joinTexts, Instruction.text, String.append_assoc]

theorem run_elided {p : Printer} (hi : s.elides (.instruction i)) (hp : p.indents = 0) :
    (writeInstruction names s i).run p = .ok ((), { p with fellOff := true }) := by
  obtain ⟨hr, e, hi⟩ := Script.elides_iff.mp hi
  cases hi
  have hk : p.indents = 0 ∧ s.returns.isEmpty := ⟨hp, List.isEmpty_iff.mpr hr⟩
  simp only [writeInstruction, StateT.run_bind, StateT.run_get, pure_bind, if_pos hk]
  rfl

-- Deeper inside of a script no return is left out.
theorem writeInstruction_writes (i : Instruction) (h : s.elides (.instruction i) → 1 ≤ depth) :
    Writes depth (writeInstruction names s i) [i] fun declared => i.text names declared := by
  cases i
  case assign vs value =>
    refine ((writeTargets_writes vs value).append
      ((writeExpression_prints value).append (.push ";"))).congr fun declared => ?_
    simp [joinTexts, Instruction.text, String.append_assoc]
  case ret value       =>
    intro p declared hd hc hv
    have hk : ¬(p.indents = 0 ∧ s.returns.isEmpty) := by
      rintro ⟨hp, hr⟩
      have := h (Script.elides_iff.mpr ⟨List.isEmpty_iff.mp hr, value, rfl⟩)
      omega
    simp only [writeInstruction, StateT.run_bind, StateT.run_get, pure_bind, if_neg hk]
    exact (writeReturn_prints value declared).writes p declared hd hc hv

-- Something that writes whole lines, at some depth or deeper, while nothing has been left out. What
-- is declared before them is what is declared in the printer.
def Lays (unit : String) (depth : Nat) (x : Printing Unit) (is : List Instruction)
    (f : List Variable → Except EmitError (List Line)) : Prop :=
  ∀ (p : Printer) (declared : List Variable), depth ≤ p.indents → p.inCalc = false →
    p.fellOff = false → (∀ v, v ∈ declared ↔ v ∈ p.declared) →
      x.run p = f declared >>= fun ls => .ok ((), p.after unit is ls)

variable {unit : String} {depth : Nat} {x y : Printing Unit} {is js : List Instruction}
variable {f g : List Variable → Except EmitError (List Line)}

namespace Lays

theorem congr (h : Lays unit depth x is f) (hf : ∀ declared, f declared = g declared) :
    Lays unit depth x is g :=
  funext hf ▸ h

theorem mono {depth' : Nat} (h : Lays unit depth x is f) (hd : depth ≤ depth') :
    Lays unit depth' x is f :=
  fun p declared hp => h p declared (hd.trans hp)

theorem nothing : Lays unit depth (pure ()) [] fun _ => pure [] := by
  intro p _ _ _ _ _
  rw [pure_bind, after_nil]
  rfl

theorem append (hx : Lays unit depth x is f) (hy : Lays unit depth y js g) :
    Lays unit depth (do x; y) (is ++ js) fun declared => do
      let first ← f declared
      let others ← g (targetsOf is ++ declared)
      return first ++ others := by
  intro p declared hd hc hf hv
  rw [StateT.run_bind, hx p declared hd hc hf hv]
  beta_reduce
  cases f declared
  case error e => rfl
  case ok ls   =>
    rw [ok_bind, ok_bind, ok_bind, hy (p.after unit is ls) _ hd hc hf (mem_declared_after hv)]
    cases g (targetsOf is ++ declared)
    case error e => rfl
    case ok ms   =>
      rw [ok_bind, ok_bind, after_after]
      rfl

theorem nested (h : Lays unit 1 x is f) :
    Lays unit 0 (do indent; x; dedent) is fun declared => do
      return (← f declared).map .deeper := by
  intro p declared _ hc hf hv
  have hx := h { p with indents := p.indents + 1 } declared (Nat.le_add_left 1 p.indents) hc hf hv
  simp only [indent, dedent, StateT.run_bind, StateT.run_modify, pure_bind, hx, bind_assoc]
  refine bind_congr fun ls => ?_
  rw [ok_bind, after, after, placedText_deeper]
  rfl

theorem line (h : Writes depth x is t) :
    Lays unit depth (do line unit; x) is fun declared => do return [.flat (← t declared)] := by
  intro p declared hd hc hf hv
  rw [StateT.run_bind, run_line hf, ok_bind, h (p.add _) declared hd hc hv]
  beta_reduce
  cases t declared
  case error e => rfl
  case ok s    =>
    rw [ok_bind, ok_bind, add_add, ← after_flat]
    rfl

theorem bind_eq {r : Except EmitError α} {f : α → Printing Unit}
    {g : α → List Variable → Except EmitError (List Line)}
    (h : ∀ a, Lays unit depth (f a) is (g a)) :
    Lays unit depth (do f (← r)) is fun declared => r >>= fun a => g a declared := by
  intro p declared hd hc hf hv
  cases r
  case error e => rfl
  case ok a    => exact h a p declared hd hc hf hv

end Lays

theorem run_lays (is : List Instruction) :
    Lays unit 1 (is.forM fun i => do line unit; writeInstruction names s i) is fun declared =>
      runLines names declared is := by
  induction is
  case nil          => exact .nothing
  case cons i is hi =>
    refine ((Lays.line (writeInstruction_writes i fun _ => Nat.le_refl 1)).append hi).congr
      fun declared => ?_
    simp [runLines]

theorem expression_prints (names : Names) {lead : String} (h : Prints false x (pure lead))
    (e : Expression) (back : String) :
    Prints false (do x; writeExpression names e; push back)
      (do return lead ++ (← e.text names false) ++ back) := by
  refine (h.append ((writeExpression_prints e).append (.push back))).congr ?_
  simp [joinTexts, String.append_assoc]

theorem labels_prints (names : Names) (ty : Ty) (labels : List Int32) :
    Prints false (writeSeparated (labels.map fun n => do push (← ty.intText names n)))
      (do return ", ".intercalate (← labels.mapM (ty.intText names))) := by
  refine (Prints.separated_map (fun n => .push_lift (ty.intText names n)) labels).congr ?_
  simp [listText, List.mapM_map]

theorem headed_lays {t : Except EmitError String} (hx : Prints false x t)
    (hy : Lays unit 1 y is f) :
    Lays unit 0 (do line unit; x; indent; y; dedent) is fun declared => do
      let s ← t
      let inside ← f declared
      return .flat s :: inside.map .deeper := by
  have h := (Lays.line hx.writes).append hy.nested
  simp only [bind_assoc] at h
  exact h.congr fun declared => by simp [targetsOf]

theorem close_lays : Lays unit 0 (do line unit; push "\x7d") [] fun _ => pure [.flat "\x7d"] :=
  (Lays.line (Prints.push "\x7d").writes).congr fun _ => rfl

end Printer

open Printer

variable {unit : String} {s : Script} {names : Names}

-- Instructions on their own can only stand in a block, for what stands outside is looked at one by
-- one.
def Construct.leastDepth : Construct → Nat
  | .seq _ => 1
  | _      => 0

theorem Construct.leastDepth_le (c : Construct) : c.leastDepth ≤ 1 := by
  cases c <;> simp [leastDepth]

mutual

theorem Chain.lays : (c : Chain) →
    Lays unit 1 (writeChain names unit s c) c.instructions fun declared => c.lines names declared
  | .last c      => c.lays.mono c.leastDepth_le
  | .link c rest => (c.lays.mono c.leastDepth_le).append rest.lays

theorem Construct.lays : (c : Construct) →
    Lays unit c.leastDepth (writeConstruct names unit s c) c.instructions fun declared =>
      c.lines names declared
  | .seq is      => run_lays is
  | .cond bs     => by
    match bs with
    | .done               => exact fun _ _ _ _ _ _ => rfl
    | .otherwise _        => exact fun _ _ _ _ _ _ => rfl
    | .branch c body rest =>
      have head := expression_prints names (.push "if ") c " \x7b"
      have h := (headed_lays head body.lays).append rest.lays
      simp only [writeConstruct, writeBranches, writeBlock, Construct.instructions,
        Branches.instructions]
      simp only [bind_assoc] at h ⊢
      exact .bind_eq fun _ => h.congr fun declared => by simp [Branches.lines, String.append_assoc]
  | .loop c body => by
    have head := expression_prints names (.push "while ") c " \x7b"
    have h := (headed_lays head body.lays).append close_lays
    simp only [writeConstruct, writeBlock, Construct.instructions]
    simp only [bind_assoc, List.append_nil] at h ⊢
    exact h.congr fun declared => by simp [Construct.lines, String.append_assoc]
  | .switch e cs => by
    have head (ty : Ty) :=
      expression_prints names (.push ("switch_" ++ ty.literal ++ " (")) e ") \x7b"
    have h (ty : Ty) := ((Lays.line (head ty).writes).append (cs.lays ty)).append close_lays
    simp only [writeConstruct, Construct.instructions]
    simp only [bind_assoc, List.nil_append, List.append_nil] at h ⊢
    exact (Lays.bind_eq h).congr fun declared => by
      simp [Construct.lines, targetsOf, String.append_assoc]

-- The line that ends a branch is the one that the next branch begins on.
theorem Branches.lays : (bs : Branches) →
    Lays unit 0 (do line unit; push "\x7d"; writeBranches names unit s " else if " bs)
      bs.instructions fun declared => bs.lines names declared "\x7d else if "
  | .done               => close_lays
  | .otherwise body     => by
    have h := (headed_lays (.push_push "\x7d" " else \x7b") body.lays).append close_lays
    simp only [writeBranches, writeBlock, Branches.instructions]
    simp only [bind_assoc, List.append_nil] at h ⊢
    exact h.congr fun declared => by simp [Branches.lines]
  | .branch c body rest => by
    have head := expression_prints names (.push_push "\x7d" " else if ") c " \x7b"
    have h := (headed_lays head body.lays).append rest.lays
    simp only [writeBranches, writeBlock, Branches.instructions]
    simp only [bind_assoc] at h ⊢
    exact h.congr fun declared => by simp [Branches.lines, String.append_assoc]

theorem Cases.lays (ty : Ty) : (cs : Cases) →
    Lays unit 0 (writeCases names unit s ty cs) cs.instructions fun declared => do
      return (← cs.lines names declared ty).map .deeper
  | .done                  => .nothing
  | .otherwise body        => by
    have h := ((headed_lays (.push "case default :") body.lays).mono (Nat.zero_le 1)).nested
    simp only [writeCases, writeCaseBody, Cases.instructions]
    simp only [bind_assoc] at h ⊢
    exact h.congr fun declared => by simp [Cases.lines]
  | .case labels body rest => by
    simp only [writeCases]
    split
    case isTrue hl  =>
      intro p declared _ _ _ _
      simp only [Cases.lines, if_pos hl]
      rfl
    case isFalse hl =>
      have head := (labels_prints names ty labels).enclosed "case " " :"
      have h := ((headed_lays head body.lays).mono (Nat.zero_le 1)).nested.append (rest.lays ty)
      simp only [writeCaseBody, Cases.instructions]
      simp only [bind_assoc] at h ⊢
      exact h.congr fun declared => by simp [Cases.lines, hl, String.append_assoc]

end

def Printer.writeItem (names : Names) (unit : String) (s : Script) : Item → Printing Unit
  | .instruction i => do
    line unit
    writeInstruction names s i
  | .block c       => writeConstruct names unit s c

theorem Construct.write_eq_forM (c : Construct) :
    writeConstruct names unit s c = c.items.forM (writeItem names unit s) := by
  cases c
  case seq is =>
    rw [writeConstruct, items, List.forM_eq_forM, List.forM_eq_forM, List.forM_map]
    rfl
  all_goals exact bind_pure_unit.symm

theorem Chain.write_eq_forM (c : Chain) :
    writeChain names unit s c = c.items.forM (writeItem names unit s) := by
  match c with
  | last c      => exact c.write_eq_forM
  | link c rest =>
    rw [writeChain, items, List.forM_eq_forM, List.forM_append, c.write_eq_forM, rest.write_eq_forM]
    rfl

def Item.leastDepth : Item → Nat
  | instruction _ => 0
  | block c       => c.leastDepth

theorem Construct.leastDepth_of_mem_items {c : Construct} (h : i ∈ c.items) :
    i.leastDepth = 0 := by
  cases c <;> simp only [items, List.mem_map, List.mem_singleton] at h
  case seq is =>
    obtain ⟨j, _, rfl⟩ := h
    rfl
  all_goals exact h ▸ rfl

theorem Chain.leastDepth_of_mem_items {c : Chain} (h : i ∈ c.items) : i.leastDepth = 0 := by
  match c with
  | last c      => exact c.leastDepth_of_mem_items h
  | link c rest =>
    rcases List.mem_append.mp h with h | h
    case inl => exact c.leastDepth_of_mem_items h
    case inr => exact rest.leastDepth_of_mem_items h

theorem Item.lays {i : Item} (hi : i.leastDepth = 0) (he : s.elides i = false) :
    Lays unit 0 (writeItem names unit s i) i.instructions fun declared =>
      i.lines names declared := by
  cases i
  case instruction i => exact .line (writeInstruction_writes i (by simp [he]))
  case block c       => exact hi ▸ c.lays

-- A printer that has come as far as a script that is written item by item.
structure Reached (unit start : String) (q : Progress) (p : Printer) : Prop where
  out      : p.out = start ++ placedText unit 0 q.lines ++ if q.ended then "\n" else ""
  indents  : p.indents = 0
  inCalc   : p.inCalc = false
  fellOff  : p.fellOff = q.ended
  declared : ∀ v, v ∈ q.declared ↔ v ∈ p.declared

namespace Reached

theorem blank (unit start : String) (s : Script) :
    Reached unit start s.blank { out := start, declared := s.arguments.toFinset } where
  out      := by simp [Script.blank, placedText]
  indents  := rfl
  inCalc   := rfl
  fellOff  := rfl
  declared := by simp [Script.blank]

variable {start : String} {q : Progress} {p : Printer} {i : Item} (h : Reached unit start q p)
include h

theorem refuses (hi : i.leastDepth = 0) (he : q.ended) :
    (writeItem names unit s i).run p = .error i.refusal := by
  have hl : (line unit).run p = .error .statementAfterReturn := run_line_ended (h.fellOff.trans he)
  rcases i with i | (is | bs | ⟨e, body⟩ | ⟨e, cs⟩)
  case instruction => simp [writeItem, hl, Item.refusal]
  case block.seq   => simp [Item.leastDepth, Construct.leastDepth] at hi
  case block.cond  =>
    simp only [writeItem, writeConstruct, Item.refusal]
    cases (Construct.cond bs).opening
    case error e => rfl
    case ok      => simp [hl]
  case block.loop  => simp [writeItem, writeConstruct, hl, Item.refusal, Construct.opening]
  case block.switch =>
    simp only [writeItem, writeConstruct, Item.refusal, Construct.opening]
    cases e.soleType
    case error e => rfl
    case ok ty   => simp [hl, Except.map]

theorem elides (hi : s.elides i) (he : q.ended = false) :
    ∃ p', (writeItem names unit s i).run p = .ok ((), p') ∧
      Reached unit start { q with ended := true } p' := by
  rcases i with i | c
  case block       => simp [Script.elides, Item.isReturn] at hi
  case instruction =>
    refine ⟨{ p.add "\n" with fellOff := true }, ?_, ?_⟩
    · rw [writeItem, StateT.run_bind, run_line (h.fellOff.trans he), h.indents]
      exact run_elided hi h.indents
    · exact { h with
        out     := by simp [add, h.out, he]
        fellOff := rfl }

theorem extend (hi : i.leastDepth = 0) :
    Alike Eq (fun q r => Reached unit start q r.2) (s.extend names q i)
      ((writeItem names unit s i).run p) := by
  cases he : q.ended
  case true  =>
    rw [Script.extend_ended he, h.refuses hi he]
    exact .error rfl
  case false =>
    cases hr : s.elides i
    case true  =>
      obtain ⟨p', hp, h'⟩ := h.elides hr he
      rw [Script.extend_elided he hr, hp]
      exact .ok h'
    case false =>
      rw [Script.extend_written he hr, Item.lays hi hr p q.declared (Nat.zero_le _) h.inCalc
        (h.fellOff.trans he) h.declared]
      refine (Alike.refl (fun _ => rfl) _).bind_eq fun ls => .ok ?_
      exact {
        out      := by
          simp [after, add, declaring, Progress.add, h.out, h.indents, he, placedText_append,
            String.append_assoc]
        indents  := h.indents
        inCalc   := h.inCalc
        fellOff  := h.fellOff
        declared := mem_declared_after h.declared }

theorem run {is : List Item} (hi : ∀ i ∈ is, i.leastDepth = 0) :
    Alike Eq (fun q r => Reached unit start q r.2) (s.run names q is)
      ((is.forM (writeItem names unit s)).run p) := by
  induction is generalizing q p
  case nil          => exact .ok h
  case cons i is hr =>
    have ⟨hi, his⟩ := List.forall_mem_cons.mp hi
    rw [Script.run_cons]
    exact (h.extend hi).bind fun _ _ h' => hr h' his

theorem chain (s : Script) (names : Names) (c : Chain) :
    Alike Eq (fun q r => Reached unit start q r.2) (s.run names q c.items)
      ((writeChain names unit s c).run p) := by
  rw [c.write_eq_forM]
  exact h.run fun i => Chain.leastDepth_of_mem_items

theorem finish : ∃ p', (writeEnd unit).run p = .ok ((), p') ∧
    p'.out = start ++ placedText unit 0 q.lines ++ "\n" := by
  have hw : (writeEnd unit).run p = if p.fellOff then .ok ((), p) else (nextLine unit).run p := by
    simp only [writeEnd, StateT.run_bind, StateT.run_get, pure_bind]
    split <;> rfl
  rw [hw, run_nextLine, h.fellOff, h.indents]
  cases he : q.ended
  case true  => exact ⟨p, rfl, by simp [h.out, he]⟩
  case false => exact ⟨_, rfl, by simp [add, h.out, he]⟩

end Reached

theorem Printer.writeArguments_prints : Prints false (writeArguments s)
    (if s.arguments.isEmpty ∧ s.returns.isEmpty then pure "" else do
      return "(" ++ (← listText (s.arguments.map Script.argumentText)) ++ ")") := by
  rw [writeArguments]
  split
  case isTrue  => exact .nothing
  case isFalse =>
    exact (Prints.separated_map (fun v => .push_lift (Script.argumentText v)) _).enclosed "(" ")"

theorem Printer.writeReturns_prints : Prints false (writeReturns s)
    (pure <| if s.returns.isEmpty then "" else
      "(" ++ ", ".intercalate (s.returns.map Ty.literal) ++ ")") := by
  rw [writeReturns]
  split
  case isTrue  => exact .nothing
  case isFalse =>
    refine ((Prints.separated_map (fun ty => .push (Ty.literal ty)) _).enclosed "(" ")").congr ?_
    simp [listText, List.mapM_map]

theorem Printer.writeSignature_prints :
    Prints false (writeSignature names s) (s.signature names) := by
  refine ((Prints.push _).append (writeArguments_prints.append writeReturns_prints)).congr ?_
  rw [Script.signature]
  by_cases h : s.arguments = [] ∧ s.returns = []
  case pos => simp [joinTexts, h, listText]
  case neg => simp [joinTexts, h, String.append_assoc]

theorem Printer.run_writeHeader (declared : Finset Variable) :
    (writeHeader names unit s).run { declared } = s.signature names >>= fun signature =>
      .ok ((), { out := "// " ++ toString s.id.toInt ++ "\n" ++ signature, declared }) := by
  rw [writeHeader, StateT.run_bind, run_push, ok_bind, StateT.run_bind, run_nextLine, ok_bind]
  refine (writeSignature_prints _ rfl).trans ?_
  exact bind_congr fun signature => by simp [add]

-- A printer writes the text of every script, or it fails for the same reason for which the script
-- has none.
theorem Script.print_eq_emit (s : Script) (names : Names) (unit : String) :
    s.print names unit = s.emit names unit := by
  rw [print, writeScript, StateT.run_bind, run_writeHeader, emit, lines]
  cases s.signature names
  case error e      => rfl
  case ok signature =>
    have hr := (Reached.blank unit ("// " ++ toString s.id.toInt ++ "\n" ++ signature) s).chain s names
      s.body
    rw [bodyLines_eq_run]
    simp only [ok_bind, StateT.run_bind]
    generalize s.run names s.blank s.body.items = x at hr ⊢
    generalize (writeChain names unit s s.body).run _ = y at hr ⊢
    cases hr
    case error h => rw [h]; rfl
    case ok q r h =>
      obtain ⟨p', hp, ho⟩ := h.finish
      simp only [ok_bind, hp]
      refine congrArg Except.ok (ho.trans ?_)
      simp [placedText, Line.render, Line.flat, String.append_assoc]

end ClientScript
