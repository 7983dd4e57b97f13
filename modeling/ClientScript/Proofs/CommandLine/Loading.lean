import ClientScript.CommandLine.Run
import ClientScript.Proofs.CommandLine.Report
import ClientScript.Proofs.Encoding.Depth
import ClientScript.Proofs.Names.Directory

namespace ClientScript.CommandLine

section

variable (tree : FileTree) (here : List String) (config : Option String)
variable (complaint : String → String) (o : EmitOptions)

def passFailures : List Failure :=
  (o.skipped.filter fun name => !(Pass.all.map Pass.name).contains name).map .unknownPass

def moduleFailures : List Failure :=
  match tree.readText here (.given o.input) with
  | .error fault => [.moduleFile o.input fault]
  | .ok text     =>
    if (Module.ofText? text).isSome then [] else [.moduleText o.input (complaint text)]

def directoryFailures : List Failure :=
  match o.names with
  | some path => if tree.isDirectory here (.given path) then [] else [.noNames path]
  | none      => []

def tablesDirectory? : Option Path :=
  let usual := config.map fun base => Path.inside (.inside (.given base) "cs2") "names"
  (o.names.elim usual (some <| .given ·)).filter (tree.isDirectory here)

def tableFailures : List Failure :=
  (tablesDirectory? tree here config o).toList.flatMap fun d =>
    (NameKind.all.flatMap (NameTable.faultsOf tree here d)).map .names

-- All that keeps a run from emitting anything, in the order of its arguments, the module, the
-- directory of tables, and the tables with their lines.
def failures : List Failure :=
  passFailures o ++ (moduleFailures tree here complaint o ++
    (directoryFailures tree here o ++ tableFailures tree here config o))

def tables : NameTable :=
  (tablesDirectory? tree here config o).elim {} fun d =>
    NameKind.all.foldl (fun t kind => t.insertAll kind (NameTable.entriesOf tree here d kind)) {}

def tablesLog : List String :=
  (tablesDirectory? tree here config o).toList.map fun d =>
    "[cs2] loaded " ++ toString (tables tree here config o).size ++ " names from " ++ d.text

def moduleLog (source : Module) : List String :=
  ["[cs2] loaded " ++ toString source.scripts.length ++ " scripts from " ++ o.input]

end

variable {tree : FileTree} {here : List String} {config : Option String}
variable {complaint : String → String} {o : EmitOptions} {source other : Module}

theorem run_isDirectory : ((FileTree.files here).isDirectory p).run tree =
    (tree.isDirectory here p, tree) :=
  rfl

theorem head?_passFailures : (passFailures o).head? = o.unknownPass?.map .unknownPass := by
  rw [passFailures, List.head?_map, List.head?_filter]
  rfl

theorem run_namesDirectory : (namesDirectory (FileTree.files here) config o.names).run tree =
    (barring (directoryFailures tree here o) (tablesDirectory? tree here config o), tree) := by
  rw [directoryFailures, tablesDirectory?]
  cases o.names
  case some path =>
    rw [namesDirectory, FileTree.run_bind, run_isDirectory, Option.elim_some, Option.filter_some]
    dsimp only
    cases tree.isDirectory here (.given path) <;> rfl
  case none      =>
    cases config
    case none      => rfl
    case some base =>
      rw [namesDirectory, FileTree.run_bind, run_isDirectory, Option.elim_none, Option.map_some,
        Option.filter_some]
      cases tree.isDirectory here (.inside (.inside (.given base) "cs2") "names") <;> rfl

theorem run_loadNames : (loadNames (FileTree.files here) config o.names).run tree =
    (match directoryFailures tree here o ++ tableFailures tree here config o with
      | []     => { log := tablesLog tree here config o, value := .ok (tables tree here config o) }
      | f :: _ => { log := [], value := .error f }, tree) := by
  rw [loadNames, FileTree.run_bind, run_namesDirectory, tablesLog, tables, tableFailures]
  cases directoryFailures tree here o
  case cons f fs => rfl
  case nil       =>
    dsimp only [barring]
    cases tablesDirectory? tree here config o
    case none   => rfl
    case some d =>
      rw [FileTree.run_bind, NameTable.load, NameTable.run_loadKinds, Option.toList_some,
        List.flatMap_singleton, List.nil_append]
      cases NameKind.all.flatMap (NameTable.faultsOf tree here d) <;> rfl

def Loads (tree : FileTree) (here : List String) (path : String) (source : Module) : Prop :=
  ∃ text, tree.readText here (.given path) = .ok text ∧ Module.ofText? text = some source

theorem Loads.unique (h : Loads tree here path source) (h' : Loads tree here path other) :
    source = other := by
  obtain ⟨text, ht, hs⟩ := h
  obtain ⟨text', ht', hs'⟩ := h'
  obtain rfl := Except.ok.inj (ht.symm.trans ht')
  exact Option.some.inj (hs.symm.trans hs')

theorem run_loadModule_of_loads (h : Loads tree here o.input source) :
    moduleFailures tree here complaint o = [] ∧
      (loadModule (FileTree.files here) complaint o.input).run tree = (.ok source, tree) := by
  obtain ⟨text, ht, hs⟩ := h
  rw [moduleFailures, loadModule, FileTree.run_bind, FileTree.run_readText, ht]
  dsimp only [moduleOfText]
  rw [hs]
  exact ⟨rfl, rfl⟩

theorem run_loadModule_of_not_loads (h : ∀ source, ¬Loads tree here o.input source) :
    ∃ f, moduleFailures tree here complaint o = [f] ∧
      (loadModule (FileTree.files here) complaint o.input).run tree = (.error f, tree) := by
  rw [moduleFailures, loadModule, FileTree.run_bind, FileTree.run_readText]
  cases ht : tree.readText here (.given o.input)
  case error fault => exact ⟨_, rfl, rfl⟩
  case ok text     =>
    have hs : Module.ofText? text = none :=
      Option.eq_none_iff_forall_ne_some.mpr fun source hs => h source ⟨text, ht, hs⟩
    dsimp only [moduleOfText]
    rw [hs]
    exact ⟨_, rfl, rfl⟩

theorem run_runEmit_of_loads (hp : o.unknownPass? = none) (hm : Loads tree here o.input source) :
    (runEmit (FileTree.files here) config complaint o).run tree =
      match directoryFailures tree here o ++ tableFailures tree here config o with
      | []     => (emitLoaded (FileTree.files here) o
          (moduleLog o source ++ tablesLog tree here config o) (tables tree here config o).names
          source).run tree
      | f :: _ => (.failed (moduleLog o source) "" f, tree) := by
  rw [runEmit, hp]
  dsimp only
  rw [FileTree.run_bind, (run_loadModule_of_loads hm).right]
  dsimp only
  rw [FileTree.run_bind, run_loadNames]
  dsimp only
  cases directoryFailures tree here o ++ tableFailures tree here config o
  case nil       => rfl
  case cons f fs => rfl

-- The first failure is reported, after the module if that has been loaded.
theorem run_runEmit_of_failures (h : failures tree here config complaint o = f :: fs) :
    ∃ log, (runEmit (FileTree.files here) config complaint o).run tree = (.failed log "" f, tree) ∧
      (passFailures o ++ moduleFailures tree here complaint o ≠ [] → log = []) ∧
      ∀ source, passFailures o = [] → Loads tree here o.input source → log = moduleLog o source := by
  have hu := head?_passFailures (o := o)
  rw [failures] at h
  cases hp : o.unknownPass? <;> rw [hp] at hu
  case some name =>
    obtain ⟨others, ho⟩ := List.head?_eq_some_iff.mp hu
    rw [ho] at h ⊢
    obtain rfl := (List.cons.inj h).left
    refine ⟨[], ?_, fun _ => rfl, nofun⟩
    rw [runEmit, hp]
    rfl
  case none      =>
    have hn : passFailures o = [] := List.head?_eq_none_iff.mp hu
    rw [hn, List.nil_append] at h
    by_cases hm : ∃ source, Loads tree here o.input source
    case pos =>
      obtain ⟨source, hm⟩ := hm
      have hs : moduleFailures tree here complaint o = [] := (run_loadModule_of_loads hm).left
      rw [hs, List.nil_append] at h
      refine ⟨moduleLog o source, by rw [run_runEmit_of_loads hp hm, h], ?_, ?_⟩
      case refine_1 => rw [hn, hs]; exact absurd rfl
      case refine_2 => exact fun other _ ho => hm.unique ho ▸ rfl
    case neg =>
      obtain ⟨g, hg, hr⟩ := run_loadModule_of_not_loads (not_exists.mp hm)
      rw [hg] at h
      obtain rfl := (List.cons.inj h).left
      refine ⟨[], ?_, fun _ => rfl, fun source _ hl => absurd ⟨source, hl⟩ hm⟩
      rw [runEmit, hp]
      dsimp only
      rw [FileTree.run_bind, hr]
      rfl

theorem run_runEmit_of_no_failures (h : failures tree here config complaint o = []) :
    ∃ source, Loads tree here o.input source ∧
      (runEmit (FileTree.files here) config complaint o).run tree =
        (emitLoaded (FileTree.files here) o (moduleLog o source ++ tablesLog tree here config o)
          (tables tree here config o).names source).run tree := by
  obtain ⟨hp, hm, ht⟩ : passFailures o = [] ∧ moduleFailures tree here complaint o = [] ∧
      directoryFailures tree here o ++ tableFailures tree here config o = [] := by
    simpa only [failures, List.append_eq_nil_iff] using h
  have hu := head?_passFailures (o := o)
  rw [hp] at hu
  by_cases hl : ∃ source, Loads tree here o.input source
  case pos =>
    obtain ⟨source, hl⟩ := hl
    refine ⟨source, hl, ?_⟩
    rw [run_runEmit_of_loads (Option.map_eq_none_iff.mp hu.symm) hl, ht]
  case neg =>
    obtain ⟨f, hf, _⟩ := run_loadModule_of_not_loads (not_exists.mp hl)
    cases hm.symm.trans hf

-- Nothing keeps a run from emitting something.
structure Ready (tree : FileTree) (here : List String) (config : Option String) (o : EmitOptions) :
    Prop where
  passes    : ∀ name ∈ o.skipped, name ∈ Pass.all.map Pass.name
  source    : ∃ source, Loads tree here o.input source
  directory : ∀ path, o.names = some path → tree.isDirectory here (.given path)
  tables    : ∀ d, tablesDirectory? tree here config o = some d → ∀ kind,
    tree.isFile here (NameTable.path d kind) → ∃ text,
      tree.readText here (NameTable.path d kind) = .ok text ∧
        NameTable.Proper (NameTable.tableLines text)

theorem passFailures_eq_nil_iff :
    passFailures o = [] ↔ ∀ name ∈ o.skipped, name ∈ Pass.all.map Pass.name := by
  simp [passFailures]

theorem moduleFailures_eq_nil_iff :
    moduleFailures tree here complaint o = [] ↔ ∃ source, Loads tree here o.input source := by
  constructor
  case mp  =>
    intro h
    by_contra hl
    obtain ⟨f, hf, _⟩ := run_loadModule_of_not_loads (not_exists.mp hl)
    cases h.symm.trans hf
  case mpr => exact fun ⟨_, h⟩ => (run_loadModule_of_loads h).left

theorem directoryFailures_eq_nil_iff : directoryFailures tree here o = [] ↔
    ∀ path, o.names = some path → tree.isDirectory here (.given path) := by
  rw [directoryFailures]
  cases o.names <;> simp

theorem tableFailures_eq_nil_iff : tableFailures tree here config o = [] ↔
    ∀ d, tablesDirectory? tree here config o = some d →
      ∀ kind, NameTable.faultsOf tree here d kind = [] := by
  rw [tableFailures]
  cases tablesDirectory? tree here config o <;> simp

theorem failures_eq_nil_iff :
    failures tree here config complaint o = [] ↔ Ready tree here config o := by
  simp only [failures, List.append_eq_nil_iff, passFailures_eq_nil_iff, moduleFailures_eq_nil_iff,
    directoryFailures_eq_nil_iff, tableFailures_eq_nil_iff, NameTable.faultsOf_eq_nil_iff]
  constructor
  case mp  => rintro ⟨hp, hs, hd, ht⟩; exact ⟨hp, hs, hd, ht⟩
  case mpr => rintro ⟨hp, hs, hd, ht⟩; exact ⟨hp, hs, hd, ht⟩

theorem run_emit_of_ready_of_loads (asked : readArguments arguments = some (.emit o))
    (ready : Ready tree here config o) (loads : Loads tree here o.input source) :
    ∃ log, (run (FileTree.files here) config arguments complaint).run tree =
      (emitLoaded (FileTree.files here) o log (tables tree here config o).names source).run tree := by
  have hf : failures tree here config complaint o = [] := failures_eq_nil_iff.mpr ready
  obtain ⟨source', loads', hr⟩ := run_runEmit_of_no_failures hf
  obtain rfl := loads.unique loads'
  rw [run, asked]
  exact ⟨_, hr⟩

-- A run that asks for emission reports the first thing that keeps it from emitting, and leaves all
-- files as they are. Without such a thing it goes on with the module and the names.
theorem run_emit_of_loading (tree : FileTree) (here : List String) (config : Option String)
    (complaint : String → String) (arguments : List String) (o : EmitOptions)
    (asked : readArguments arguments = some (.emit o)) :
    (failures tree here config complaint o = [] ↔ Ready tree here config o) ∧
    (∀ f, (failures tree here config complaint o).head? = some f → ∃ log report,
      (run (FileTree.files here) config arguments complaint).run tree =
        ({ code := 1, stdout := "", stderr := linesText log ++ report }, tree) ∧
      f.Reports report ∧
      (passFailures o ++ moduleFailures tree here complaint o ≠ [] → log = []) ∧
      ∀ source, passFailures o = [] → Loads tree here o.input source → log = moduleLog o source) ∧
    (Ready tree here config o → ∃ source, Loads tree here o.input source ∧
      (run (FileTree.files here) config arguments complaint).run tree =
        (emitLoaded (FileTree.files here) o (moduleLog o source ++ tablesLog tree here config o)
          (tables tree here config o).names source).run tree) := by
  rw [run, asked]
  refine ⟨failures_eq_nil_iff, fun f h => ?_, fun h => ?_⟩
  case refine_1 =>
    obtain ⟨fs, hf⟩ := List.head?_eq_some_iff.mp h
    obtain ⟨log, hr, hl⟩ := run_runEmit_of_failures hf
    exact ⟨log, f.report, hr, f.reports, hl⟩
  case refine_2 => exact run_runEmit_of_no_failures (failures_eq_nil_iff.mpr h)

def blank : Module where
  name    := "blank"
  scripts := []

-- A module and an empty text, and two directories of tables: one with a bad line, and one with a table
-- that cannot be read.
def faultyTree : FileTree where
  nodes := [
    (["m.json"], .file (.text blank.toJson.write)),
    (["empty.json"], .file (.text "")),
    (["bad"], .directory),
    (["bad", "stats.tsv"], .file (.text "0\tattack\nstrength\nrange\n")),
    (["shut"], .directory),
    (["shut", "objs.tsv"], .locked "Permission denied (os error 13)")]

theorem run_emit_of_faults :
    let complaint := fun _ : String => "EOF while parsing a value at line 1 column 0"
    let stderr (arguments : List String) :=
      ((run (FileTree.files []) none arguments complaint).run faultyTree).1.stderr
    stderr ["emit", "--names", "gone", "gone.json", "--skip-pass", "a"] =
        "Error: unknown pass \"a\" (valid passes: delete-nops)\n" ∧
      stderr ["emit", "--names", "gone", "gone.json"] = "Error: failed to load IR module gone.json\n\n" ++
        "Caused by:\n    0: I/O error: No such file or directory (os error 2)\n" ++
        "    1: No such file or directory (os error 2)\n" ∧
      stderr ["emit", "--names", "gone", "empty.json"] =
        "Error: failed to load IR module empty.json\n\nCaused by:\n" ++
        "    failed to parse empty.json: EOF while parsing a value at line 1 column 0\n" ∧
      stderr ["emit", "--names", "gone", "m.json"] = "[cs2] loaded 0 scripts from m.json\n" ++
        "Error: names directory gone does not exist\n" ∧
      stderr ["emit", "--names", "bad", "m.json"] = "[cs2] loaded 0 scripts from m.json\n" ++
        "Error: failed to parse bad/stats.tsv: line 2: expected `id<TAB>name`\n" ∧
      stderr ["emit", "--names", "shut", "m.json"] = "[cs2] loaded 0 scripts from m.json\n" ++
        "Error: I/O error: Permission denied (os error 13)\n\n" ++
        "Caused by:\n    Permission denied (os error 13)\n" ∧
      Ready faultyTree [] none { input := "m.json" } ∧
      stderr ["emit", "m.json"] = "[cs2] loaded 0 scripts from m.json\n" := by
  intro complaint stderr
  have loads : Loads faultyTree [] "m.json" blank :=
    ⟨_, rfl, (Module.ofText?_write _).trans (if_pos (by decide +kernel))⟩
  have early arguments o f (asked : readArguments arguments = some (.emit o))
      (first : (failures faultyTree [] none complaint o).head? = some f)
      (h : passFailures o ++ moduleFailures faultyTree [] complaint o ≠ []) :
      ∃ report, f.Reports report ∧ stderr arguments = linesText [] ++ report := by
    obtain ⟨log, report, hr, hf, hl, _⟩ :=
      (run_emit_of_loading faultyTree [] none complaint arguments o asked).right.left f first
    obtain rfl := hl h
    exact ⟨report, hf, congrArg (·.1.stderr) hr⟩
  have late path f (asked : readArguments ["emit", "--names", path, "m.json"] =
        some (.emit { input := "m.json", names := some path }))
      (first : (directoryFailures faultyTree [] { input := "m.json", names := some path } ++
        tableFailures faultyTree [] none { input := "m.json", names := some path }).head? = some f) :
      ∃ report, f.Reports report ∧
        stderr ["emit", "--names", path, "m.json"] =
          linesText ["[cs2] loaded 0 scripts from m.json"] ++ report := by
    let o : EmitOptions := { input := "m.json", names := some path }
    have loaded : moduleFailures faultyTree [] complaint o = [] :=
      (run_loadModule_of_loads (o := o) loads).left
    have first : (failures faultyTree [] none complaint o).head? = some f := by
      rw [failures, loaded]
      exact first
    obtain ⟨log, report, hr, hf, _, hl⟩ :=
      (run_emit_of_loading faultyTree [] none complaint _ _ asked).right.left f first
    obtain rfl := hl blank rfl loads
    exact ⟨report, hf, congrArg (·.1.stderr) hr⟩
  have ready : Ready faultyTree [] none { input := "m.json" } :=
    { passes := nofun, source := ⟨_, loads⟩, directory := nofun, tables := nofun }
  refine ⟨?pass, ?missing, ?text, ?directory, ?line, ?locked, ready, ?reached⟩
  case pass      =>
    obtain ⟨_, ⟨⟩, hs⟩ := early ["emit", "--names", "gone", "gone.json", "--skip-pass", "a"]
      { input := "gone.json", names := some "gone", skipped := ["a"] }
      (.unknownPass "a") (by decide +kernel) (by decide +kernel) (by decide +kernel)
    exact hs.trans (by decide +kernel)
  case missing   =>
    obtain ⟨_, ⟨⟩, hs⟩ := early ["emit", "--names", "gone", "gone.json"] { input := "gone.json", names := some "gone" }
      (.moduleFile "gone.json" .missing) (by decide +kernel) (by decide +kernel) (by decide +kernel)
    exact hs.trans (by decide +kernel)
  case text      =>
    obtain ⟨_, ⟨⟩, hs⟩ := early ["emit", "--names", "gone", "empty.json"] { input := "empty.json", names := some "gone" }
      (.moduleText "empty.json" (complaint "")) (by decide +kernel) (by decide +kernel)
      (by decide +kernel)
    exact hs.trans (by decide +kernel)
  case directory =>
    obtain ⟨_, ⟨⟩, hs⟩ := late "gone" (.noNames "gone") (by decide +kernel) (by decide +kernel)
    exact hs.trans (by decide +kernel)
  case line      =>
    obtain ⟨_, ⟨⟩, hs⟩ := late "bad" (.names (.table (.inside (.given "bad") "stats.tsv")
      { line := 2, cause := .noTab })) (by decide +kernel) (by decide +kernel)
    exact hs.trans (by decide +kernel)
  case locked    =>
    obtain ⟨_, ⟨⟩, hs⟩ := late "shut" (.names (.file (.other "Permission denied (os error 13)")))
      (by decide +kernel) (by decide +kernel)
    exact hs.trans (by decide +kernel)
  case reached   =>
    obtain ⟨source, loaded, hr⟩ := (run_emit_of_loading faultyTree [] none complaint
      ["emit", "m.json"] { input := "m.json" } (by decide +kernel)).right.right ready
    obtain rfl := loads.unique loaded
    refine (congrArg (·.1.stderr) hr).trans ?_
    decide +kernel

end ClientScript.CommandLine
