import ClientScript.FileTree
import ClientScript.Proofs.Outcome
import Mathlib.Logic.Unique

namespace ClientScript

theorem Path.nul_mem_text_inside {directory : Path} {name : String} :
    '\x00' ∈ (inside directory name).text.toList ↔
      '\x00' ∈ directory.text.toList ∨ '\x00' ∈ name.toList := by
  rw [text]
  split <;> simp [String.toList_append]

namespace FileTree

variable {t u : FileTree} {here there path : List String} {p : Path}

theorem nodes_put (t : FileTree) (path : List String) (n : Node) :
    (t.put path n).nodes = t.nodes.filter (·.1 ≠ path) ++ [(path, n)] :=
  rfl

theorem node?_put_self (t : FileTree) (h : path ≠ []) (n : Node) :
    (t.put path n).node? path = some n := by
  have hl : (t.nodes.filter (·.1 ≠ path)).lookup path = none :=
    List.lookup_eq_none_iff.mpr fun e he =>
      bne_iff_ne.mpr (of_decide_eq_true (List.mem_filter.mp he).right).symm
  rw [node?, nodes_put, List.lookup_append, hl, List.lookup_cons, beq_self_eq_true]
  · rfl
  · exact h

theorem node?_put_of_ne (t : FileTree) (h : there ≠ path) (n : Node) :
    (t.put path n).node? there = t.node? there := by
  cases there
  case nil             => rfl
  case cons first rest =>
    have hl (nodes : List (List String × Node)) :
        (nodes.filter (·.1 ≠ path)).lookup (first :: rest) = nodes.lookup (first :: rest) := by
      induction nodes
      case nil           => rfl
      case cons e nodes hi =>
        obtain ⟨other, m⟩ := e
        by_cases ho : other = path
        case pos =>
          subst ho
          rw [List.filter_cons_of_neg (by simp), hi, List.lookup_cons, beq_false_of_ne h]
        case neg =>
          rw [List.filter_cons_of_pos (by simpa using ho), List.lookup_cons, List.lookup_cons, hi]
    change (t.put path n).nodes.lookup (first :: rest) = t.nodes.lookup (first :: rest)
    rw [nodes_put, List.lookup_append, hl, List.lookup_cons, beq_false_of_ne h]
    exact Option.or_none

def Writable (t : FileTree) (d : List String) : Prop :=
  ∀ f n, t.node? (d ++ [f]) = some n → ∃ content, n = .file content

theorem writable_of_new {d : List String} (h : ∀ rest, rest ≠ [] → t.node? (d ++ rest) = none) :
    t.Writable d := by
  intro f n hn
  rw [h [f] nofun] at hn
  cases hn

theorem Writable.put {d : List String} (h : t.Writable d) (f : String) (content : Content) :
    (t.put (d ++ [f]) (.file content)).Writable d := by
  intro g n hn
  by_cases hg : g = f
  case pos =>
    rw [hg, node?_put_self t (by simp)] at hn
    exact ⟨content, (Option.some.inj hn).symm⟩
  case neg =>
    rw [node?_put_of_ne t (by simpa using hg)] at hn
    exact h g n hn

theorem Writable.ne_directory {d : List String} (h : t.Writable d) (f : String) :
    t.node? (d ++ [f]) ≠ some .directory := by
  intro hn
  obtain ⟨content, hc⟩ := h f _ hn
  cases hc

theorem next_eq_ok_iff {name : String} : t.next here name = .ok there ↔
    t.node? here = some .directory ∧ name.utf8ByteSize ≤ 255 ∧ step here name = there := by
  rw [next]
  split
  case h_1 h    => simp [h]
  case h_2 h    => split <;> simp [*]
  case h_3 hn h =>
    exact iff_of_false nofun fun hd => hn (Option.some.inj (h.symm.trans hd.left))

theorem walk_cons {name : String} {names : List String} :
    t.walk here (name :: names) = t.next here name >>= (t.walk · names) :=
  List.foldlM_cons

theorem walk_concat {name : String} {names : List String} :
    t.walk here (names ++ [name]) = t.walk here names >>= (t.next · name) := by
  simp [walk]

-- All that is on the way are directories. So the way does not change where something else is put.
theorem walk_put {names : List String} (h : t.walk here names = .ok there)
    (hp : t.node? path ≠ some .directory) (n : Node) :
    (t.put path n).walk here names = .ok there := by
  induction names generalizing here
  case nil                => exact h
  case cons name names hi =>
    rw [walk_cons, bind_eq_ok_iff] at h
    obtain ⟨along, hn, hw⟩ := h
    obtain ⟨hd, hl⟩ := next_eq_ok_iff.mp hn
    have hh : here ≠ path := fun e => hp (e ▸ hd)
    rw [walk_cons, bind_eq_ok_iff]
    exact ⟨along, next_eq_ok_iff.mpr ⟨(t.node?_put_of_ne hh n).trans hd, hl⟩, hi hw⟩

theorem walk_steps (h : t.walk here p.names = .ok there) (hd : t.node? there = some .directory) :
    t.walk here p.steps = .ok there := by
  induction p generalizing there
  case given s                  =>
    rw [Path.steps]
    split
    case isTrue  =>
      rw [walk_concat, h, ok_bind]
      exact next_eq_ok_iff.mpr ⟨hd, by decide, rfl⟩
    case isFalse => rwa [List.append_nil]
  case inside directory name hi =>
    rw [Path.names, walk_concat, bind_eq_ok_iff] at h
    obtain ⟨along, hw, hn⟩ := h
    rw [Path.steps, walk_concat, hi hw (next_eq_ok_iff.mp hn).left, ok_bind, hn]

theorem checkText_eq_ok_iff : checkText p = .ok () ↔
    '\x00' ∉ p.text.toList ∧ p.text.utf8ByteSize < 4096 := by
  rw [checkText]
  split
  case isTrue h => simp_all
  case isFalse h => split <;> simp_all

theorem find?_eq_ok_iff {n : Node} : t.find? here p = .ok n ↔
    checkText p = .ok () ∧
      ∃ path, t.walk (start here p) p.steps = .ok path ∧ t.node? path = some n := by
  rw [find?, bind_eq_ok_iff, Unique.exists_iff]
  refine and_congr_right' (bind_eq_ok_iff.trans (exists_congr fun path => and_congr_right' ?_))
  split <;> simp [*, pure, throw, throwThe, MonadExceptOf.throw, Except.pure]

structure Leads (t : FileTree) (here : List String) (p : Path) (d : List String) : Prop where
  text  : checkText p = .ok ()
  way   : t.walk (start here p) p.steps = .ok d
  there : t.node? d = some .directory

theorem Leads.put {d : List String} (h : t.Leads here p d) (hp : t.node? path ≠ some .directory)
    (n : Node) : (t.put path n).Leads here p d where
  text  := h.text
  way   := walk_put h.way hp n
  there :=
    have hd : d ≠ path := fun e => hp (e ▸ h.there)
    (t.node?_put_of_ne hd n).trans h.there

theorem isDirectory_iff : t.isDirectory here p ↔ ∃ d, t.Leads here p d := by
  have hf : t.isDirectory here p ↔ t.find? here p = .ok .directory := by
    rw [isDirectory]
    split <;> simp_all
  rw [hf, find?_eq_ok_iff]
  exact ⟨fun ⟨ht, d, hw, hd⟩ => ⟨d, ht, hw, hd⟩, fun ⟨d, ht, hw, hd⟩ => ⟨ht, d, hw, hd⟩⟩

theorem run_bind (x : StateM FileTree α) (f : α → StateM FileTree β) (t : FileTree) :
    (x >>= f).run t = (f (x.run t).1).run (x.run t).2 :=
  rfl

theorem run_makeDirectory :
    ((files here).makeDirectory p).run t = t.updated (t.makeDirectory here p) :=
  rfl

theorem run_writeText {text : String} :
    ((files here).writeText p text).run t = t.updated (t.writeText here p text) :=
  rfl

theorem run_ensureDirectory : ((files here).ensureDirectory p).run t =
    match t.makeDirectory here p with
    | .ok u        => (.ok (), u)
    | .error fault => (if t.isDirectory here p then .ok () else .error fault, t) := by
  rw [Files.ensureDirectory, run_bind, run_makeDirectory]
  cases t.makeDirectory here p
  case ok u        => rfl
  case error fault => rfl

theorem leads_of_makeDirectory (h : t.makeDirectory here p = .ok u) : ∃ d, u.Leads here p d := by
  rw [makeDirectory] at h
  obtain ⟨_, ht, h⟩ := bind_eq_ok_iff.mp h
  obtain ⟨d, hw, h⟩ := bind_eq_ok_iff.mp h
  split at h
  case h_1    => contradiction
  case h_2 hn =>
    obtain rfl := Except.ok.inj h
    have hd : d ≠ [] := fun e => by subst e; cases hn
    have hs := t.node?_put_self hd .directory
    exact ⟨d, ht, walk_steps (walk_put hw (by simp [hn]) _) hs, hs⟩

theorem leads_of_ensureDirectory (h : ((files here).ensureDirectory p).run t = (.ok (), u)) :
    ∃ d, u.Leads here p d := by
  rw [run_ensureDirectory] at h
  split at h
  case h_1 hm =>
    obtain rfl := congrArg Prod.snd h
    exact leads_of_makeDirectory hm
  case h_2    =>
    obtain rfl := congrArg Prod.snd h
    by_cases hd : t.isDirectory here p
    case pos => exact isDirectory_iff.mp hd
    case neg => cases (if_neg hd).symm.trans (congrArg Prod.fst h)

-- However far out it has to begin, the directory itself comes last.
theorem leads_of_makeDirectories (h : ((files here).makeDirectories p).run t = (.ok (), u)) :
    ∃ d, u.Leads here p d := by
  rw [Files.makeDirectories, Files.makeInward, run_bind] at h
  cases hr : ((files here).ensureDirectory p).run t
  case mk result v =>
    rw [hr] at h
    dsimp only at h
    split at h
    case h_1 =>
      rw [run_bind] at h
      split at h
      case h_1 => exact leads_of_ensureDirectory h
      case h_2 => cases congrArg Prod.fst h
    case h_2 => exact leads_of_ensureDirectory (hr.trans h)

theorem failsOnly_walk {names : List String} (h : ∀ name ∈ names, name.utf8ByteSize ≤ 255) :
    FailsOnly (· ≠ .tooLong) (t.walk here names) := by
  induction names generalizing here
  case nil                => exact .ok here
  case cons name names hi =>
    obtain ⟨hn, hs⟩ := List.forall_mem_cons.mp h
    rw [walk_cons, next]
    split
    case h_1 => exact .error nofun
    case h_2 => rw [if_pos hn]; exact hi hs
    case h_3 => exact .error nofun

theorem failsOnly_writeText (ht : p.text.utf8ByteSize < 4096)
    (hs : ∀ name ∈ p.steps, name.utf8ByteSize ≤ 255) (text : String) :
    FailsOnly (· ≠ .tooLong) (t.writeText here p text) := by
  rw [writeText, checkText, if_pos ht]
  refine .bind ?_ fun _ _ => .bind (failsOnly_walk hs) fun _ _ => ?_
  case refine_1 => split <;> first | exact .ok () | exact .error nofun
  case refine_2 => split <;> first | exact .ok _ | exact .error nofun

theorem walk_inside {f : String} (h : t.Leads here p d) :
    t.walk (start here (.inside p f)) (Path.inside p f).steps =
      if f.utf8ByteSize ≤ 255 then .ok (step d f) else .error .tooLong := by
  rw [Path.steps, walk_concat, start, Path.isAbsolute, ← start, h.way, ok_bind, next, h.there]

theorem Leads.not_contains_nul {f : String} (h : t.Leads here p d) (hf : '\x00' ∉ f.toList) :
    ¬(Path.inside p f).text.toList.contains '\x00' := by
  simp [Path.nul_mem_text_inside, hf, (checkText_eq_ok_iff.mp h.text).left]

-- In a directory of files, only a file's name can be in its way.
theorem writeText_inside {f text : String} (h : t.Leads here p d) (hf : f ≠ "." ∧ f ≠ "..")
    (hd : t.Writable d)
    (hl : FailsOnly (· ≠ .tooLong) (t.writeText here (.inside p f) text)) :
    t.writeText here (.inside p f) text =
      if '\x00' ∈ f.toList then .error .nulInName
      else .ok (t.put (d ++ [f]) (.file (.text text))) := by
  by_cases hn : '\x00' ∈ f.toList
  case pos =>
    rw [writeText, checkText, if_pos (by simp [Path.nul_mem_text_inside, hn]), if_pos hn]
    rfl
  case neg =>
    rw [writeText, checkText, if_neg (h.not_contains_nul hn), walk_inside h, step, if_neg hf.left,
      if_neg hf.right] at hl ⊢
    rw [if_neg hn]
    by_cases ht : (Path.inside p f).text.utf8ByteSize < 4096
    case neg => rw [if_neg ht] at hl; exact absurd rfl (hl _ rfl)
    by_cases hb : f.utf8ByteSize ≤ 255
    case neg => rw [if_pos ht, if_neg hb] at hl; exact absurd rfl (hl _ rfl)
    rw [if_pos ht, if_pos hb, ok_bind, ok_bind]
    split
    case h_1 hm => exact absurd hm (hd.ne_directory f)
    case h_2 hm => obtain ⟨content, hc⟩ := hd f _ hm; cases hc
    case h_3    => rfl

theorem writeText_tooLong {f text : String} (h : t.Leads here p d) (hf : '\x00' ∉ f.toList)
    (hb : 255 < f.utf8ByteSize) : t.writeText here (.inside p f) text = .error .tooLong := by
  rw [writeText, checkText, if_neg (h.not_contains_nul hf), walk_inside h,
    if_neg (Nat.not_le.mpr hb)]
  split <;> rfl

end FileTree

end ClientScript
