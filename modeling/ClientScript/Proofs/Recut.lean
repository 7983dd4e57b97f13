import ClientScript.Proofs.Dump.Outline
import ClientScript.Proofs.Prune
import Mathlib.Logic.Relation

namespace ClientScript

open Relation (EqvGen)

mutual

-- One step between chains, at any level: a run of instructions is cut in two, or an empty one is put
-- in between.
inductive Chain.Cut : Chain → Chain → Prop
  | split {is js rest} :
    Chain.Cut (.link (.seq (is ++ js)) rest) (.link (.seq is) (.link (.seq js) rest))
  | splitLast {is js} : Chain.Cut (.last (.seq (is ++ js))) (.link (.seq is) (.last (.seq js)))
  | front {rest} : Chain.Cut rest (.link (.seq []) rest)
  | back {c} : Chain.Cut (.last c) (.link c (.last (.seq [])))
  | last {c d} (h : c.Cut d) : Chain.Cut (.last c) (.last d)
  | head {c d rest} (h : c.Cut d) : Chain.Cut (.link c rest) (.link d rest)
  | tail {c a b} (h : a.Cut b) : Chain.Cut (.link c a) (.link c b)

inductive Construct.Cut : Construct → Construct → Prop
  | cond {as bs} (h : as.Cut bs) : Construct.Cut (.cond as) (.cond bs)
  | loop {c a b} (h : a.Cut b) : Construct.Cut (.loop c a) (.loop c b)
  | switch {e as bs} (h : as.Cut bs) : Construct.Cut (.switch e as) (.switch e bs)

inductive Branches.Cut : Branches → Branches → Prop
  | otherwise {a b} (h : a.Cut b) : Branches.Cut (.otherwise a) (.otherwise b)
  | body {c a b rest} (h : a.Cut b) : Branches.Cut (.branch c a rest) (.branch c b rest)
  | rest {c body as bs} (h : as.Cut bs) : Branches.Cut (.branch c body as) (.branch c body bs)

inductive Cases.Cut : Cases → Cases → Prop
  | otherwise {a b} (h : a.Cut b) : Cases.Cut (.otherwise a) (.otherwise b)
  | body {ns a b rest} (h : a.Cut b) : Cases.Cut (.case ns a rest) (.case ns b rest)
  | rest {ns body as bs} (h : as.Cut bs) : Cases.Cut (.case ns body as) (.case ns body bs)

end

-- Chains that differ only in how their runs of instructions are cut. Back steps join runs again.
def Chain.Recut : Chain → Chain → Prop :=
  EqvGen Chain.Cut

theorem eqvGen_eq {r : α → α → Prop} (f : α → β) (h : ∀ a b, r a b → f a = f b)
    (hab : EqvGen r a b) : f a = f b := by
  induction hab
  case rel h'       => exact h _ _ h'
  case refl         => rfl
  case symm hi      => exact hi.symm
  case trans hi hi' => exact hi.trans hi'

theorem eqvGen_lift {r : α → α → Prop} {p : β → β → Prop} (f : α → β)
    (h : ∀ a b, r a b → p (f a) (f b)) (hab : EqvGen r a b) : EqvGen p (f a) (f b) := by
  induction hab
  case rel h'       => exact .rel _ _ (h _ _ h')
  case refl         => exact .refl _
  case symm hi      => exact hi.symm
  case trans hi hi' => exact hi.trans _ _ _ hi'

mutual

theorem Chain.Cut.outline : {a b : Chain} → a.Cut b → a.outline = b.outline
  | _, _, .split     => by simp [Chain.outline, Construct.outline]
  | _, _, .splitLast => by simp [Chain.outline, Construct.outline]
  | _, _, .front     => rfl
  | _, _, .back      => rfl
  | _, _, .last h    => h.outline
  | _, _, .head h    => h.outline
  | _, _, .tail h    => congrArg (Construct.outline · _) h.outline

theorem Construct.Cut.outline : {c d : Construct} → c.Cut d → ∀ {rest},
    c.outline rest = d.outline rest
  | _, _, .cond h,   _ => congrArg (Outline.cond · _) h.outline
  | _, _, .loop h,   _ => congrArg (Outline.loop _ · _) h.outline
  | _, _, .switch h, _ => congrArg (Outline.switch _ · _) h.outline

theorem Branches.Cut.outline : {as bs : Branches} → as.Cut bs → as.outline = bs.outline
  | _, _, .otherwise h => congrArg OutlineBranches.otherwise h.outline
  | _, _, .body h      => congrArg (OutlineBranches.branch _ · _) h.outline
  | _, _, .rest h      => congrArg (OutlineBranches.branch _ _) h.outline

theorem Cases.Cut.outline : {as bs : Cases} → as.Cut bs → as.outline = bs.outline
  | _, _, .otherwise h => congrArg OutlineCases.otherwise h.outline
  | _, _, .body h      => congrArg (OutlineCases.case _ · _) h.outline
  | _, _, .rest h      => congrArg (OutlineCases.case _ _) h.outline

end

mutual

def Outline.chain : Outline → Chain
  | .done               => .last (.seq [])
  | .instruction i rest => .link (.seq [i]) rest.chain
  | .cond bs rest       => .link (.cond bs.branches) rest.chain
  | .loop c body rest   => .link (.loop c body.chain) rest.chain
  | .switch e cs rest   => .link (.switch e cs.cases) rest.chain

def OutlineBranches.branches : OutlineBranches → Branches
  | .done               => .done
  | .otherwise body     => .otherwise body.chain
  | .branch c body rest => .branch c body.chain rest.branches

def OutlineCases.cases : OutlineCases → Cases
  | .done              => .done
  | .otherwise body    => .otherwise body.chain
  | .case ns body rest => .case ns body.chain rest.cases

end

theorem Chain.recut_link {c d : Construct} {a b : Chain} (hc : EqvGen Construct.Cut c d)
    (h : a.Recut b) : (link c a).Recut (link d b) :=
  .trans _ _ _ (eqvGen_lift (link c) (fun _ _ => .tail) h)
    (eqvGen_lift (link · b) (fun _ _ => .head) hc)

theorem Chain.recut_seq {is : List Instruction} {rest : Chain} {o : Outline}
    (h : rest.Recut o.chain) : (link (.seq is) rest).Recut (is.foldr .instruction o).chain := by
  induction is
  case nil          => exact .trans _ _ _ (.symm _ _ (.rel _ _ .front)) h
  case cons i is hi =>
    exact .trans _ _ _ (.rel _ _ (@Cut.split [i] is rest)) (recut_link (.refl _) hi)

mutual

theorem Chain.recut_chain : (c : Chain) → c.Recut c.outline.chain
  | .last c      => .trans _ _ _ (.rel _ _ .back) (c.recut_chain (.refl _))
  | .link c rest => c.recut_chain rest.recut_chain

theorem Construct.recut_chain : (c : Construct) → ∀ {rest : Chain} {o : Outline},
    rest.Recut o.chain → (Chain.link c rest).Recut (c.outline o).chain
  | .seq _,       _, _, h => Chain.recut_seq h
  | .cond bs,     _, _, h =>
    Chain.recut_link (eqvGen_lift Construct.cond (fun _ _ => .cond) bs.recut_branches) h
  | .loop c body, _, _, h =>
    Chain.recut_link (eqvGen_lift (Construct.loop c) (fun _ _ => .loop) body.recut_chain) h
  | .switch e cs, _, _, h =>
    Chain.recut_link (eqvGen_lift (Construct.switch e) (fun _ _ => .switch) cs.recut_cases) h

theorem Branches.recut_branches : (bs : Branches) → EqvGen Branches.Cut bs bs.outline.branches
  | .done               => .refl _
  | .otherwise body     =>
    eqvGen_lift Branches.otherwise (fun _ _ => .otherwise) body.recut_chain
  | .branch c body rest =>
    .trans _ _ _ (eqvGen_lift (Branches.branch c · rest) (fun _ _ => .body) body.recut_chain)
      (eqvGen_lift (Branches.branch c _) (fun _ _ => .rest) rest.recut_branches)

theorem Cases.recut_cases : (cs : Cases) → EqvGen Cases.Cut cs cs.outline.cases
  | .done              => .refl _
  | .otherwise body    => eqvGen_lift Cases.otherwise (fun _ _ => .otherwise) body.recut_chain
  | .case ns body rest =>
    .trans _ _ _ (eqvGen_lift (Cases.case ns · rest) (fun _ _ => .body) body.recut_chain)
      (eqvGen_lift (Cases.case ns _) (fun _ _ => .rest) rest.recut_cases)

end

-- The outline of a chain is all of it but its cuts.
theorem Chain.recut_iff {a b : Chain} : a.Recut b ↔ a.outline = b.outline := by
  constructor
  case mp  => exact eqvGen_eq Chain.outline fun _ _ => Cut.outline
  case mpr => exact fun h => .trans _ _ _ a.recut_chain (h ▸ .symm _ _ b.recut_chain)

mutual

theorem Chain.Cut.instructions : {a b : Chain} → a.Cut b → a.instructions = b.instructions
  | _, _, .split     => List.append_assoc ..
  | _, _, .splitLast => rfl
  | _, _, .front     => rfl
  | _, _, .back      => (List.append_nil _).symm
  | _, _, .last h    => h.instructions
  | _, _, .head h    => congrArg (· ++ _) h.instructions
  | _, _, .tail h    => congrArg (_ ++ ·) h.instructions

theorem Construct.Cut.instructions : {c d : Construct} → c.Cut d → c.instructions = d.instructions
  | _, _, .cond h   => h.instructions
  | _, _, .loop h   => h.instructions
  | _, _, .switch h => h.instructions

theorem Branches.Cut.instructions : {as bs : Branches} → as.Cut bs →
    as.instructions = bs.instructions
  | _, _, .otherwise h => h.instructions
  | _, _, .body h      => congrArg (· ++ _) h.instructions
  | _, _, .rest h      => congrArg (_ ++ ·) h.instructions

theorem Cases.Cut.instructions : {as bs : Cases} → as.Cut bs → as.instructions = bs.instructions
  | _, _, .otherwise h => h.instructions
  | _, _, .body h      => congrArg (· ++ _) h.instructions
  | _, _, .rest h      => congrArg (_ ++ ·) h.instructions

end

mutual

theorem Chain.Cut.prune : {a b : Chain} → a.Cut b → a.prune.rest.Cut b.prune.rest
  | _, _, .split     => by
    simp only [Chain.prune, Construct.prune, Pruned.both, Pruned.map, pruneRun, List.filter_append]
    exact .split
  | _, _, .splitLast => by
    simp only [Chain.prune, Construct.prune, Pruned.both, Pruned.map, pruneRun, List.filter_append]
    exact .splitLast
  | _, _, .front     => .front
  | _, _, .back      => .back
  | _, _, .last h    => .last h.prune
  | _, _, .head h    => .head h.prune
  | _, _, .tail h    => .tail h.prune

theorem Construct.Cut.prune : {c d : Construct} → c.Cut d → c.prune.rest.Cut d.prune.rest
  | _, _, .cond h   => .cond h.prune
  | _, _, .loop h   => .loop h.prune
  | _, _, .switch h => .switch h.prune

theorem Branches.Cut.prune : {as bs : Branches} → as.Cut bs → as.prune.rest.Cut bs.prune.rest
  | _, _, .otherwise h => .otherwise h.prune
  | _, _, .body h      => .body h.prune
  | _, _, .rest h      => .rest h.prune

theorem Cases.Cut.prune : {as bs : Cases} → as.Cut bs → as.prune.rest.Cut bs.prune.rest
  | _, _, .otherwise h => .otherwise h.prune
  | _, _, .body h      => .body h.prune
  | _, _, .rest h      => .rest h.prune

end

namespace Chain.Recut

variable {a b : Chain}

theorem instructions (h : a.Recut b) : a.instructions = b.instructions :=
  eqvGen_eq Chain.instructions (fun _ _ => Cut.instructions) h

theorem dumpLines (h : a.Recut b) : a.dumpLines = b.dumpLines := by
  rw [a.dumpLines_eq, b.dumpLines_eq, recut_iff.mp h]

theorem prune (h : a.Recut b) : a.prune.rest.Recut b.prune.rest :=
  eqvGen_lift (fun c : Chain => c.prune.rest) (fun _ _ => Cut.prune) h

theorem removed_prune (h : a.Recut b) : a.prune.removed = b.prune.removed := by
  rw [Chain.removed_prune, Chain.removed_prune, h.instructions]

end Chain.Recut

end ClientScript
