import ClientScript.Output
import ClientScript.Proofs.FileTree

namespace ClientScript

theorem Names.toList_fileName (names : Names) (id : Int32) : (names.fileName id).toList =
    ((names.script id).toList.map fun c => if c = '/' ∨ c = '\\' then '_' else c) ++
      ['.', 'c', 's', '2'] := by
  rw [fileName, String.toList_append, String.toList_map]; rfl

theorem Names.fileName_plain (names : Names) (id : Int32) :
    '/' ∉ (names.fileName id).toList ∧ '\\' ∉ (names.fileName id).toList ∧
      names.fileName id ≠ "." ∧ names.fileName id ≠ ".." := by
  have hc (c : Char) (h : c = '/' ∨ c = '\\') : c ∉ (names.fileName id).toList := by
    rw [toList_fileName, List.mem_append, List.mem_map]
    rintro (⟨b, _, hb⟩ | hs)
    case inl => split at hb <;> grind
    case inr => grind
  have hn (s : String) (h : s.toList.length < 4) : names.fileName id ≠ s := by
    rintro rfl
    rw [toList_fileName, List.length_append] at h
    exact absurd h (Nat.not_lt.mpr (Nat.le_add_left 4 _))
  exact ⟨hc _ (.inl rfl), hc _ (.inr rfl), hn _ (by decide), hn _ (by decide)⟩

namespace FileTree

def store (d : List String) (texts : List (String × String)) (t : FileTree) : FileTree :=
  texts.foldl (fun t e => t.put (d ++ [e.1]) (.file (.text e.2))) t

variable {t : FileTree} {d path : List String} {texts : List (String × String)}

theorem node?_store_of_ne (h : ∀ f, path ≠ d ++ [f]) :
    (t.store d texts).node? path = t.node? path := by
  induction texts generalizing t
  case nil             => rfl
  case cons e texts hi => exact hi.trans (node?_put_of_ne t (h e.1) _)

theorem node?_store (f : String) : (t.store d texts).node? (d ++ [f]) =
    (texts.reverse.lookup f |>.map fun text => .file (.text text)).or (t.node? (d ++ [f])) := by
  induction texts generalizing t
  case nil             => rfl
  case cons e texts hi =>
    obtain ⟨g, text⟩ := e
    refine hi.trans ?_
    rw [List.reverse_cons, List.lookup_append, List.lookup_cons, Option.map_or, Option.or_assoc]
    by_cases hg : f = g
    case pos =>
      subst hg
      rw [node?_put_self t (by simp), beq_self_eq_true]
      rfl
    case neg =>
      rw [node?_put_of_ne t (by simpa using hg), beq_false_of_ne hg]
      rfl

theorem node?_store_eq_some_iff (h : ∀ rest, rest ≠ [] → t.node? (d ++ rest) = none)
    {rest : List String} (hr : rest ≠ []) (n : Node) :
    (t.store d texts).node? (d ++ rest) = some n ↔
      ∃ f text, rest = [f] ∧ n = .file (.text text) ∧ texts.reverse.lookup f = some text := by
  match rest with
  | [f]            =>
    rw [node?_store, h [f] hr, Option.or_none, Option.map_eq_some_iff]
    constructor
    case mp  =>
      rintro ⟨text, hl, rfl⟩
      exact ⟨f, text, rfl, rfl, hl⟩
    case mpr =>
      rintro ⟨g, text, hg, rfl, hl⟩
      obtain rfl := (List.cons.inj hg).left
      exact ⟨text, hl, rfl⟩
  | f :: g :: rest =>
    rw [node?_store_of_ne (by simp), h (f :: g :: rest) hr]
    exact iff_of_false nofun nofun

end FileTree

namespace Output

variable (names : Names) (unit : String)

-- A script has a text, but no file can be called like it.
def blocks (s : Script) : Bool :=
  (s.emit names unit).isOk && (names.fileName s.id).toList.contains '\x00'

def emitting (ss : List Script) : List Script :=
  ss.filter fun s => (s.emit names unit).isOk

-- The scripts before the first one that blocks.
def reached (ss : List Script) : List Script :=
  ss.takeWhile fun s => !blocks names unit s

def texts (ss : List Script) : List (String × String) :=
  ss.filterMap fun s => (s.emit names unit).toOption.map fun text => (names.fileName s.id, text)

def failures (ss : List Script) : Nat :=
  ss.countP fun s => !(s.emit names unit).isOk

def verdict (ss : List Script) : Except OutputFault Unit :=
  if ss.any (blocks names unit) then .error (.file .nulInName)
  else if failures names unit ss = 0 then .ok ()
  else .error (.scripts (failures names unit ss) ss.length)

-- No file of a script that has a text has a name that is too long.
def NoneTooLong (here : List String) (p : Path) (names : Names) (unit : String) (ss : List Script) :
    Prop :=
  ∀ s ∈ ss, ∀ text, s.emit names unit = .ok text → ∀ t : FileTree,
    FailsOnly (· ≠ .tooLong) (t.writeText here (.inside p (names.fileName s.id)) text)

theorem noneTooLong {here : List String} {p : Path} {names : Names} {ss : List Script}
    (h : ∀ s ∈ ss,
      (Path.inside p (names.fileName s.id)).text.utf8ByteSize < 4096 ∧
      ∀ name ∈ (Path.inside p (names.fileName s.id)).steps, name.utf8ByteSize ≤ 255) :
    NoneTooLong here p names unit ss :=
  fun s hs text _ _ => FileTree.failsOnly_writeText (h s hs).left (h s hs).right text

section Write

variable {names : Names} {unit : String} {t : FileTree} {here d : List String} {p : Path}
variable {s : Script} {ss : List Script}

theorem blocks_of_error (h : s.emit names unit = .error e) : blocks names unit s = false := by
  rw [blocks, h]; rfl

theorem blocks_of_ok (h : s.emit names unit = .ok text) :
    blocks names unit s = (names.fileName s.id).toList.contains '\x00' := by
  rw [blocks, h]; rfl

theorem reached_cons (h : blocks names unit s = false) :
    reached names unit (s :: ss) = s :: reached names unit ss :=
  List.takeWhile_cons_of_pos (by rw [h]; rfl)

theorem reached_cons_of_blocks (h : blocks names unit s = true) :
    reached names unit (s :: ss) = [] :=
  List.takeWhile_cons_of_neg (by rw [h]; nofun)

theorem texts_cons_error (h : s.emit names unit = .error e) :
    texts names unit (s :: ss) = texts names unit ss :=
  List.filterMap_cons_none (by rw [h]; rfl)

theorem texts_cons_ok (h : s.emit names unit = .ok text) :
    texts names unit (s :: ss) = (names.fileName s.id, text) :: texts names unit ss :=
  List.filterMap_cons_some (by rw [h]; rfl)

theorem failures_cons_error (h : s.emit names unit = .error e) :
    failures names unit (s :: ss) = failures names unit ss + 1 :=
  List.countP_cons_of_pos (by rw [h]; rfl)

theorem failures_cons_ok (h : s.emit names unit = .ok text) :
    failures names unit (s :: ss) = failures names unit ss :=
  List.countP_cons_of_neg (by rw [h]; nofun)

theorem run_writeScripts_error (h : s.emit names unit = .error e) :
    (writeScripts (FileTree.files here) p names unit (s :: ss)).run t =
      let done := (writeScripts (FileTree.files here) p names unit ss).run t
      ({ log := failureLine "strict" s.id e :: done.1.log, value := done.1.value.map (· + 1) },
        done.2) := by
  rw [writeScripts, h]
  rfl

theorem run_writeScripts_ok (h : s.emit names unit = .ok text) :
    (writeScripts (FileTree.files here) p names unit (s :: ss)).run t =
      match t.writeText here (.inside p (names.fileName s.id)) text with
      | .ok u        => (writeScripts (FileTree.files here) p names unit ss).run u
      | .error fault => ({ log := [], value := .error fault }, t) := by
  rw [writeScripts, h]
  dsimp only
  rw [FileTree.run_bind, FileTree.run_writeText]
  cases t.writeText here (.inside p (names.fileName s.id)) text
  case ok u        => rfl
  case error fault => rfl

theorem run_writeScripts (h : t.Leads here p d) (hd : t.Writable d)
    (hl : NoneTooLong here p names unit ss) :
    ∃ log, (writeScripts (FileTree.files here) p names unit ss).run t =
      ({ log, value :=
          if ss.any (blocks names unit) then .error .nulInName else .ok (failures names unit ss) },
        t.store d (texts names unit (reached names unit ss))) := by
  induction ss generalizing t
  case nil          => exact ⟨[], rfl⟩
  case cons s ss hi =>
    obtain ⟨hs, hl⟩ := List.forall_mem_cons.mp hl
    cases he : s.emit names unit
    case error e =>
      obtain ⟨log, hr⟩ := hi h hd hl
      have hb := blocks_of_error he
      rw [run_writeScripts_error he, hr, reached_cons hb, texts_cons_error he, List.any_cons, hb,
        Bool.false_or, failures_cons_error he]
      refine ⟨failureLine "strict" s.id e :: log, ?_⟩
      dsimp only
      split <;> rfl
    case ok text =>
      rw [run_writeScripts_ok he,
        FileTree.writeText_inside h (names.fileName_plain s.id).right.right hd (hs text he t)]
      by_cases hn : '\x00' ∈ (names.fileName s.id).toList
      case pos =>
        have hb : blocks names unit s = true := (blocks_of_ok he).trans (by simpa using hn)
        rw [if_pos hn, reached_cons_of_blocks hb, List.any_cons, hb]
        exact ⟨[], rfl⟩
      case neg =>
        have hb : blocks names unit s = false := (blocks_of_ok he).trans (by simpa using hn)
        obtain ⟨log, hr⟩ := hi (h.put (hd.ne_directory _) _) (hd.put _ _) hl
        rw [if_neg hn, reached_cons hb, texts_cons_ok he, List.any_cons, hb, Bool.false_or,
          failures_cons_ok he]
        exact ⟨log, hr⟩

theorem texts_reached_emitting :
    texts names unit (reached names unit (emitting names unit ss)) =
      texts names unit (reached names unit ss) := by
  induction ss
  case nil          => rfl
  case cons s ss hi =>
    cases he : s.emit names unit
    case error e =>
      rw [emitting, List.filter_cons_of_neg (by rw [he]; nofun), reached_cons (blocks_of_error he),
        texts_cons_error he]
      exact hi
    case ok text =>
      rw [emitting, List.filter_cons_of_pos (by rw [he]; rfl), ← emitting]
      cases hb : blocks names unit s
      case false => rw [reached_cons hb, reached_cons hb, texts_cons_ok he, texts_cons_ok he, hi]
      case true  => rw [reached_cons_of_blocks hb, reached_cons_of_blocks hb]

theorem run_writeModule {u : FileTree} {source : Module}
    (made : ((FileTree.files here).makeDirectories p).run t = (.ok (), u)) (h : u.Leads here p d)
    (hd : u.Writable d) (hl : NoneTooLong here p names unit source.scripts) :
    ∃ log, (writeModule (FileTree.files here) p names unit source).run t =
      ({ log, value := verdict names unit source.scripts },
        u.store d (texts names unit (reached names unit source.scripts))) := by
  obtain ⟨log, hr⟩ := run_writeScripts h hd hl
  rw [writeModule, FileTree.run_bind, made]
  dsimp only
  rw [FileTree.run_bind, hr, verdict]
  by_cases hb : source.scripts.any (blocks names unit)
  case pos => rw [if_pos hb, if_pos hb]; exact ⟨_, rfl⟩
  case neg => rw [if_neg hb, if_neg hb]; exact ⟨_, rfl⟩

-- A directory that has been made and holds nothing holds the texts of the scripts afterwards, each
-- in the file of its name, and nothing else.
theorem writeModule_new (t t' : FileTree) (here : List String) (p : Path) (d : List String)
    (names : Names) (unit : String) (source : Module)
    (made : ((FileTree.files here).makeDirectories p).run t = (.ok (), t'))
    (place : t'.walk (FileTree.start here p) p.steps = .ok d)
    (new : ∀ rest, rest ≠ [] → t'.node? (d ++ rest) = none)
    (short : NoneTooLong here p names unit source.scripts) :
    ∃ log after,
      (writeModule (FileTree.files here) p names unit source).run t =
        ({ log, value := verdict names unit source.scripts }, after) ∧
      (∀ rest, rest ≠ [] → ∀ n, after.node? (d ++ rest) = some n ↔
        ∃ f text, rest = [f] ∧ n = .file (.text text) ∧
          (texts names unit (reached names unit source.scripts)).reverse.lookup f = some text) ∧
      (∀ path, (∀ f, path ≠ d ++ [f]) → after.node? path = t'.node? path) ∧
      (writeModule (FileTree.files here) p names unit
        { source with scripts := emitting names unit source.scripts } |>.run t).2 = after ∧
      ∀ id, '/' ∉ (names.fileName id).toList ∧ '\\' ∉ (names.fileName id).toList ∧
        names.fileName id ≠ "." ∧ names.fileName id ≠ ".." := by
  obtain ⟨d', hd⟩ := FileTree.leads_of_makeDirectories made
  obtain rfl : d = d' := Except.ok.inj (place.symm.trans hd.way)
  have hn : t'.Writable d := FileTree.writable_of_new new
  obtain ⟨log, hr⟩ := run_writeModule made hd hn short
  refine ⟨log, _, hr, fun _ => FileTree.node?_store_eq_some_iff new,
    fun _ => FileTree.node?_store_of_ne, ?_, names.fileName_plain⟩
  -- the scripts with a text are written alike when the others are not there
  let kept : Module := { source with scripts := emitting names unit source.scripts }
  have hs : NoneTooLong here p names unit kept.scripts := fun s hs =>
    short s (List.mem_filter.mp hs).left
  obtain ⟨_, hr⟩ := run_writeModule made hd hn hs
  rw [hr, texts_reached_emitting]

end Write

def sharing : Names
  | .script, 1 => some "a/b"
  | .script, 3 => some "a\\b"
  | .script, 4 => some "c\x00"
  | _, _       => none

-- The first and the third script share a file, the second has no text, and the fourth one blocks.
def mixed : Module where
  name    := "mixed"
  scripts := [
    { id := 1, body := .last (.seq []) },
    { id := 2, body := .last (.seq [.assign [] (.var ⟨.stack, .int, 0⟩)]) },
    { id := 3, body := .last (.seq []) },
    { id := 4, body := .last (.seq []) },
    { id := 5, body := .last (.seq []) }]

theorem writeModule_mixed :
    let made : FileTree := { nodes := [(["out"], .directory)] }
    ((FileTree.files []).makeDirectories (.given "out")).run {} = (.ok (), made) ∧
    made.walk (FileTree.start [] (.given "out")) (Path.given "out").steps = .ok ["out"] ∧
    (∀ rest, rest ≠ [] → made.node? (["out"] ++ rest) = none) ∧
    NoneTooLong [] (.given "out") sharing " " mixed.scripts ∧
    ∃ log after,
      (writeModule (FileTree.files []) (.given "out") sharing " " mixed).run {} =
        ({ log, value := .error (.file .nulInName) }, after) ∧
      after.node? ["out", "a_b.cs2"] = some (.file (.text "// 3\na\\b\n")) ∧
      after.node? ["out", "script5.cs2"] = none := by
  intro made
  have hn : ∀ rest, rest ≠ [] → made.node? (["out"] ++ rest) = none := by
    intro rest hr
    obtain ⟨f, rest, rfl⟩ := List.exists_cons_of_ne_nil hr
    rfl
  have hl : NoneTooLong [] (.given "out") sharing " " mixed.scripts :=
    noneTooLong " " (by decide +kernel)
  have hs : (texts sharing " " (reached sharing " " mixed.scripts)).reverse.lookup "script5.cs2" =
      none := by decide +kernel
  have hv : verdict sharing " " mixed.scripts = .error (.file .nulInName) :=
    if_pos (by decide +kernel)
  obtain ⟨log, after, hr, hf, _⟩ :=
    writeModule_new {} made [] (.given "out") ["out"] sharing " " mixed rfl rfl hn hl
  refine ⟨rfl, rfl, hn, hl, log, after, hv ▸ hr, ?_, ?_⟩
  case refine_1 => exact (hf ["a_b.cs2"] nofun _).mpr ⟨_, _, rfl, rfl, by decide +kernel⟩
  case refine_2 =>
    refine Option.eq_none_iff_forall_ne_some.mpr fun n hc => ?_
    obtain ⟨f, text, he, _, ht⟩ := (hf ["script5.cs2"] nofun n).mp hc
    obtain rfl := (List.cons.inj he).left
    cases ht.symm.trans hs

end Output

end ClientScript
