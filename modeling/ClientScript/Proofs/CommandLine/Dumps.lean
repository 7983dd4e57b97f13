import ClientScript.Proofs.CommandLine.Arguments
import ClientScript.Proofs.CommandLine.Emission

namespace ClientScript.CommandLine

theorem linesText_append (first rest : List String) :
    linesText (first ++ rest) = linesText first ++ linesText rest := by
  rw [linesText, List.map_append, String.join_append]
  rfl

def conclusion (done : Logged (Except OutputFault Unit)) : String :=
  linesText done.log ++
    match done.value with
    | .ok ()       => ""
    | .error fault => (Failure.output fault).report

theorem stderr_ofEmission (log : List String) (stdout : String)
    (done : Logged (Except OutputFault Unit)) :
    (Outcome.ofEmission log stdout done).stderr = linesText log ++ conclusion done := by
  rw [Outcome.ofEmission, conclusion]
  cases done.value
  case ok          =>
    rw [linesText_append]
    simp
  case error fault =>
    change linesText (log ++ done.log) ++ _ = _
    rw [linesText_append, String.append_assoc]

def emission (tree : FileTree) (here : List String) (o : EmitOptions) (names : Names)
    (source : Module) : Logged (Except OutputFault Unit) × String × FileTree :=
  match o.output with
  | none      =>
    let printed := Output.print names o.unit source
    (printed.1, printed.2, tree)
  | some path =>
    let directory := Path.given path
    let written := (Output.writeModule (FileTree.files here) directory names o.unit source).run tree
    (written.1, "", written.2)

-- The lines for passes that changed something.
def changeLog (o : EmitOptions) (source : Module) : List String :=
  ((Pipeline.standard o.skipped).run source).2.filter (·.2) |>.map fun change =>
    "[cs2] pass " ++ change.1.name ++ " changed the module"

def dumps (o : EmitOptions) (names : Names) (source : Module) : List String :=
  source.scripts.filter (fun s => accepts o.filter (names.script s.id)) |>.map fun s =>
    "=== IR: " ++ names.script s.id ++ " ===\n" ++ s.dump ++ "=== end IR ===\n"

variable {tree : FileTree} {here : List String} {config : Option String}
variable {complaint : String → String} {o : EmitOptions} {names : Names} {source : Module}

theorem passLog_standard :
    passLog o names ((Pipeline.standard o.skipped).run source).2 (transformed o source) =
      changeLog o source ++ if o.dump then dumps o names (transformed o source) else [] := by
  rw [passLog, changeLog]
  cases o.dump <;> rfl

theorem run_emitLoaded (tree : FileTree) (here : List String) (o : EmitOptions)
    (log : List String) (names : Names) (source : Module) :
    (emitLoaded (FileTree.files here) o log names source).run tree =
      let m := transformed o source
      let done := emission tree here o names m
      (.ofEmission (log ++ (changeLog o source ++ if o.dump then dumps o names m else []))
        done.2.1 done.1, done.2.2) := by
  dsimp only
  rw [← passLog_standard, ← rest_run_standard, emitLoaded, emission]
  cases o.output <;> rfl

theorem EmitOptions.exists_eq_of_undumped {other : EmitOptions}
    (h : o.undumped = other.undumped) :
    ∃ dump filter, other = { o with dump := dump, filter := filter } := by
  refine ⟨other.dump, other.filter, ?_⟩
  cases o
  cases other
  simp_all [undumped]

theorem run_runEmit_of_unknownPass (h : o.unknownPass? = some name) :
    (runEmit (FileTree.files here) config complaint o).run tree =
      (.failed [] "" (.unknownPass name), tree) := by
  rw [runEmit, h]
  rfl

theorem run_runEmit_of_not_loads (hp : o.unknownPass? = none)
    (hm : (loadModule (FileTree.files here) complaint o.input).run tree = (.error f, tree)) :
    (runEmit (FileTree.files here) config complaint o).run tree = (.failed [] "" f, tree) := by
  rw [runEmit, hp]
  dsimp only
  rw [FileTree.run_bind, hm]
  rfl

theorem run_runEmit_of_not_ready (h : ¬Ready tree here config o) (dump : Bool)
    (filter : Option String) :
    (runEmit (FileTree.files here) config complaint { o with dump := dump, filter := filter }).run tree =
      (runEmit (FileTree.files here) config complaint o).run tree := by
  let other : EmitOptions := { o with dump := dump, filter := filter }
  change (runEmit (FileTree.files here) config complaint other).run tree = _
  cases hp : o.unknownPass?
  case some name =>
    have hq : other.unknownPass? = some name := hp
    rw [run_runEmit_of_unknownPass hp, run_runEmit_of_unknownPass hq]
  case none      =>
    have hq : other.unknownPass? = none := hp
    by_cases hl : ∃ source, Loads tree here o.input source
    case pos =>
      obtain ⟨source, hl⟩ := hl
      rw [run_runEmit_of_loads hp hl, run_runEmit_of_loads (o := other) hq hl]
      cases hf : directoryFailures tree here o ++ tableFailures tree here config o
      case nil       =>
        have hn : passFailures o = [] :=
          List.head?_eq_none_iff.mp (by rw [head?_passFailures, hp]; rfl)
        have ready : failures tree here config complaint o = [] := by
          rw [failures, hn, (run_loadModule_of_loads hl).left, hf]
          rfl
        exact absurd (failures_eq_nil_iff.mp ready) h
      case cons f fs =>
        have hg : directoryFailures tree here other ++ tableFailures tree here config other =
          f :: fs := hf
        rw [hg]
        rfl
    case neg =>
      obtain ⟨f, _, hr⟩ := run_loadModule_of_not_loads (not_exists.mp hl)
      rw [run_runEmit_of_not_loads hp hr, run_runEmit_of_not_loads (o := other) hq hr]

-- A run that gets to its passes logs what it has loaded and what they changed, dumps what it is
-- asked for, and then emits.
theorem run_runEmit_of_ready (complaint : String → String) (ready : Ready tree here config o)
    (loads : Loads tree here o.input source) :
    (runEmit (FileTree.files here) config complaint o).run tree =
      let names := (tables tree here config o).names
      let m := transformed o source
      let done := emission tree here o names m
      (.ofEmission (moduleLog o source ++ tablesLog tree here config o ++
        (changeLog o source ++ if o.dump then dumps o names m else []))
        done.2.1 done.1, done.2.2) := by
  have hf : failures tree here config complaint o = [] := failures_eq_nil_iff.mpr ready
  obtain ⟨source', loads', hr⟩ := run_runEmit_of_no_failures hf
  obtain rfl := loads.unique loads'
  rw [hr, run_emitLoaded]

theorem stderr_runEmit_of_ready (complaint : String → String) (ready : Ready tree here config o)
    (loads : Loads tree here o.input source) :
    ((runEmit (FileTree.files here) config complaint o).run tree).1.stderr =
      let names := (tables tree here config o).names
      let m := transformed o source
      linesText (moduleLog o source ++ tablesLog tree here config o ++ changeLog o source) ++
        (if o.dump then linesText (dumps o names m) else "") ++
          conclusion (emission tree here o names m).1 := by
  rw [run_runEmit_of_ready complaint ready loads]
  dsimp only
  rw [stderr_ofEmission, ← List.append_assoc, linesText_append]
  cases o.dump <;> rfl

theorem run_emit (h : readArguments arguments = some (.emit o)) :
    run (FileTree.files here) config arguments complaint =
      runEmit (FileTree.files here) config complaint o := by
  rw [run, h]
  rfl

theorem Ready.with_dump (h : Ready tree here config o) (dump : Bool) (filter : Option String) :
    Ready tree here config { o with dump := dump, filter := filter } :=
  { passes := h.passes, source := h.source, directory := h.directory, tables := h.tables }

theorem undumped_eq_of_withoutDumps {other : EmitOptions}
    (ho : readArguments a = some (.emit o)) (hp : readArguments b = some (.emit other))
    (h : withoutDumps a = withoutDumps b) : o.undumped = other.undumped := by
  have he := (readArguments_withoutDumps ho).symm.trans (h ▸ readArguments_withoutDumps hp)
  exact Command.emit.inj (Option.some.inj he)

-- Runs that differ in what they dump print the same, leave the same files and end alike. Dumps are
-- all that comes between what was loaded and what is emitted, if a run gets that far.
theorem run_emit_of_undumped :
    (∀ a o, readArguments a = some (.emit o) →
      readArguments (withoutDumps a) = some (.emit o.undumped)) ∧
    (∀ a b o other, readArguments a = some (.emit o) → readArguments b = some (.emit other) →
      withoutDumps a = withoutDumps b → o.undumped = other.undumped) ∧
    ∀ (tree : FileTree) (here : List String) (config : Option String)
      (complaint : String → String) (a b : List String) (o other : EmitOptions),
      readArguments a = some (.emit o) → readArguments b = some (.emit other) →
      o.undumped = other.undumped →
      let x := (run (FileTree.files here) config a complaint).run tree
      let y := (run (FileTree.files here) config b complaint).run tree
      x.1.code = y.1.code ∧ x.1.stdout = y.1.stdout ∧ x.2 = y.2 ∧
      (o.dump = false → other.dump = false → x = y) ∧
      (¬Ready tree here config o → x = y) ∧
      ∀ source, Ready tree here config o → Loads tree here o.input source → o.dump →
        let names := (tables tree here config o).names
        let m := transformed o source
        let before := linesText
          (moduleLog o source ++ tablesLog tree here config o ++ changeLog o source)
        let after := conclusion (emission tree here o names m).1
        x.1.stderr = before ++ linesText (dumps o names m) ++ after ∧
        (other.dump = false → y.1.stderr = before ++ after) := by
  refine ⟨fun _ _ => readArguments_withoutDumps, fun _ _ _ _ => undumped_eq_of_withoutDumps, ?_⟩
  intro tree here config complaint a b o other ho hp h
  obtain ⟨dump, filter, rfl⟩ := EmitOptions.exists_eq_of_undumped h
  rw [run_emit ho, run_emit hp]
  by_cases ready : Ready tree here config o
  case neg =>
    rw [run_runEmit_of_not_ready ready dump filter]
    exact ⟨rfl, rfl, rfl, fun _ _ => rfl, fun _ => rfl, fun _ hr => absurd hr ready⟩
  case pos =>
    obtain ⟨source, loads⟩ := ready.source
    have ready' := ready.with_dump dump filter
    have hx := run_runEmit_of_ready complaint ready loads
    have hy := run_runEmit_of_ready complaint ready' loads
    have sx := stderr_runEmit_of_ready complaint ready loads
    have sy := stderr_runEmit_of_ready complaint ready' loads
    refine ⟨?code, ?stdout, ?files, ?silent, fun hn => absurd ready hn, ?dumped⟩
    case code   => rw [hx, hy, code_ofEmission, code_ofEmission]; rfl
    case stdout => rw [hx, hy, stdout_ofEmission, stdout_ofEmission]; rfl
    case files  => rw [hx, hy]; rfl
    case silent =>
      intro hd he
      have he : dump = false := he
      rw [hx, hy, hd, he]
      rfl
    case dumped =>
      intro source' _ loads' hd
      obtain rfl := loads.unique loads'
      constructor
      case left  =>
        simp only [hd, if_true] at sx
        exact sx
      case right =>
        rintro ⟨⟩
        simp only [Bool.false_eq_true, if_false, String.append_empty] at sy
        exact sy

def watched : Module where
  name    := "watched"
  scripts := [
    { id := 1, body := .last (.seq [.assign [⟨.stack, .int, 0⟩] (.const ⟨.int, .int 5⟩)]) },
    { id := 2, body := .last (.seq [.assign [] (.var ⟨.stack, .int, 0⟩)]) }]

def watchedTree : FileTree where
  nodes := [(["m.json"], .file (.text watched.toJson.write))]

-- The script without a text is dumped, and then reported.
theorem run_emit_watched :
    let a := ["emit", "--filter", "SCRIPT1", "m.json", "--dump-ir"]
    let b := ["emit", "m.json"]
    let options : EmitOptions := { input := "m.json" }
    let dumping : EmitOptions := { input := "m.json", dump := true, filter := some "SCRIPT1" }
    let before := "[cs2] loaded 2 scripts from m.json\n[cs2] pass delete-nops changed the module\n"
    let after := "[cs2] script 1: stack variable 0 reached emission\n" ++
      "Error: 1 of 2 scripts failed to emit\n"
    readArguments a = some (.emit dumping) ∧ readArguments b = some (.emit options) ∧
      withoutDumps a = withoutDumps b ∧ dumping.undumped = options.undumped ∧
      Ready watchedTree [] none dumping ∧ Loads watchedTree [] "m.json" watched ∧
      ((run (FileTree.files []) none a).run watchedTree).1.stderr =
        before ++ "=== IR: script1 ===\nscript 1()\n  stack0:int = int(5)\n=== end IR ===\n\n" ++
          after ∧
      ((run (FileTree.files []) none b).run watchedTree).1.stderr = before ++ after := by
  intro a b options dumping before after
  have ha : readArguments a = some (.emit dumping) := by decide +kernel
  have hb : readArguments b = some (.emit options) := by decide +kernel
  have hw : withoutDumps a = withoutDumps b := by decide +kernel
  have hu : dumping.undumped = options.undumped := rfl
  have loads : Loads watchedTree [] "m.json" watched :=
    ⟨_, rfl, (Module.ofText?_write _).trans (if_pos (by decide +kernel))⟩
  have ready : Ready watchedTree [] none dumping :=
    { passes := by decide, source := ⟨_, loads⟩,
      directory := by rintro _ ⟨⟩,
      tables := by rintro _ ⟨⟩ }
  have names : (tables watchedTree [] none dumping).names = Names.unknown := by
    funext kind id
    simp [tables, tablesDirectory?, dumping, NameTable.names, Names.unknown]
  obtain ⟨_, _, _, _, _, h⟩ :=
    run_emit_of_undumped.right.right watchedTree [] none _ a b dumping options ha hb hu
  obtain ⟨hx, hy⟩ := h watched ready loads rfl
  have loaded : linesText (moduleLog dumping watched ++ tablesLog watchedTree [] none dumping ++
      changeLog dumping watched) = before := by decide +kernel
  have dumped : linesText (dumps dumping Names.unknown (transformed dumping watched)) =
      "=== IR: script1 ===\nscript 1()\n  stack0:int = int(5)\n=== end IR ===\n\n" := by
    decide +kernel
  have concluded : conclusion (emission watchedTree [] dumping Names.unknown
      (transformed dumping watched)).1 = after := by decide +kernel
  rw [names, loaded, concluded] at hx hy
  rw [dumped] at hx
  exact ⟨ha, hb, hw, hu, ready, loads, hx, hy rfl⟩

end ClientScript.CommandLine
