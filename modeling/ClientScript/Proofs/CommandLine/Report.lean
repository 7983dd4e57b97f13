import ClientScript.CommandLine.Failure

namespace ClientScript.CommandLine

-- A text whose lines are indented, all but the first one.
def hanging (indent s : String) : String :=
  String.ofList (s.toList.flatMap fun c => if c = '\n' then '\n' :: indent.toList else [c])

namespace Failure

inductive Reports : Failure → String → Prop
  | unknownPass : Reports (.unknownPass name)
      ("Error: unknown pass " ++ Text.quoted name ++ " (valid passes: delete-nops)\n")
  | moduleFile : Reports (.moduleFile path fault)
      ("Error: failed to load IR module " ++ path ++ "\n\nCaused by:\n    0: " ++
        hanging "       " ("I/O error: " ++ fault.message) ++ "\n    1: " ++
        hanging "       " fault.message ++ "\n")
  | moduleText {message} : Reports (.moduleText path message)
      ("Error: failed to load IR module " ++ path ++ "\n\nCaused by:\n    " ++
        hanging "    " ("failed to parse " ++ path ++ ": " ++ message) ++ "\n")
  | noNames : Reports (.noNames path) ("Error: names directory " ++ path ++ " does not exist\n")
  | tableFile : Reports (.names (.file fault))
      ("Error: I/O error: " ++ fault.message ++ "\n\nCaused by:\n    " ++
        hanging "    " fault.message ++ "\n")
  | noTab {n} : Reports (.names (.table directory { line := n, cause := .noTab }))
      ("Error: failed to parse " ++ directory.text ++ ": line " ++ toString n ++
        ": expected `id<TAB>name`\n")
  | badId {n id number} : Reports (.names (.table directory { line := n, cause := .badId id number }))
      ("Error: failed to parse " ++ directory.text ++ ": line " ++ toString n ++ ": bad id " ++
        Text.quoted id ++ ": " ++ number.message ++ "\n")
  | outputFile : Reports (.output (.file fault))
      ("Error: I/O error: " ++ fault.message ++ "\n\nCaused by:\n    " ++
        hanging "    " fault.message ++ "\n")
  | scripts {failed total} : Reports (.output (.scripts failed total))
      ("Error: " ++ toString failed ++ " of " ++ toString total ++ " scripts failed to emit\n")

-- Between the lines of a text stands what its line breaks turn into.
theorem intercalate_splitOn_eq_flatMap (between cs : List Char) :
    between.intercalate (cs.splitOn '\n') = cs.flatMap fun c => if c = '\n' then between else [c] := by
  induction cs
  case nil          => rfl
  case cons c cs hi =>
    rw [List.splitOn_cons_eq_if_modifyHead, List.flatMap_cons, ← hi]
    obtain ⟨line, lines, hl⟩ := List.exists_cons_of_ne_nil (List.splitOn_ne_nil '\n' cs)
    by_cases hc : c = '\n'
    case pos => simp [hc, List.intercalate_cons_of_ne_nil, List.splitOn_ne_nil]
    case neg => cases lines <;> simp [hc, hl, List.intercalate_cons_cons]

theorem toList_causeText (lead indent cause : String) : (causeText lead indent cause).toList =
    '\n' :: (lead.toList ++ (hanging indent cause).toList) := by
  simp [causeText, hanging, String.toList_intercalate, ← intercalate_splitOn_eq_flatMap]

variable {f : Failure} {m first second s : String}

theorem Reports.of_eq (h : f.Reports s) (he : f.report = s) : f.Reports f.report :=
  he ▸ h

theorem report_of_nil (hc : f.causes = []) (hm : f.message = m) :
    f.report = "Error: " ++ m ++ "\n" := by
  simp [report, hc, hm]

theorem report_of_single (hc : f.causes = [first]) (hm : f.message = m) :
    f.report = "Error: " ++ m ++ "\n\nCaused by:\n    " ++ hanging "    " first ++ "\n" := by
  rw [report, hc, hm, ← String.toList_inj]
  simp [toList_causeText]

theorem report_of_pair (hc : f.causes = [first, second]) (hm : f.message = m) :
    f.report = "Error: " ++ m ++ "\n\nCaused by:\n    0: " ++ hanging "       " first ++ "\n    1: " ++
      hanging "       " second ++ "\n" := by
  have zero : "    " ++ toString 0 ++ ": " = "    0: " := by decide +kernel
  have one : "    " ++ toString 1 ++ ": " = "    1: " := by decide +kernel
  rw [report, hc, hm, ← String.toList_inj]
  simp only [List.mapIdx_cons, List.mapIdx_nil, Nat.zero_add, zero, one]
  simp [String.join, toList_causeText]

theorem message_unknownPass : (unknownPass s).message =
    "unknown pass " ++ Text.quoted s ++ " (valid passes: delete-nops)" := by
  have names : ", ".intercalate (Pass.all.map Pass.name) = "delete-nops" := by decide +kernel
  change "unknown pass " ++ Text.quoted s ++ " (valid passes: " ++
    ", ".intercalate (Pass.all.map Pass.name) ++ ")" = _
  rw [names]
  simp [← String.toList_inj]

theorem reports (f : Failure) : f.Reports f.report := by
  cases f
  case unknownPass name        =>
    refine .of_eq .unknownPass ((report_of_nil rfl message_unknownPass).trans ?_)
    simp [← String.toList_inj]
  case moduleFile path fault   =>
    refine .of_eq .moduleFile
      ((report_of_pair (m := "failed to load IR module " ++ path) rfl rfl).trans ?_)
    simp [← String.toList_inj, fileMessage]
  case moduleText path text    =>
    refine .of_eq .moduleText
      ((report_of_single (m := "failed to load IR module " ++ path) rfl rfl).trans ?_)
    have cause : parseMessage (.given path) text = "failed to parse " ++ path ++ ": " ++ text := rfl
    rw [cause]
    simp [← String.toList_inj]
  case noNames path            =>
    refine .of_eq .noNames
      ((report_of_nil (m := "names directory " ++ path ++ " does not exist") rfl rfl).trans ?_)
    simp [← String.toList_inj]
  case names fault             =>
    obtain fault | ⟨path, n, _ | ⟨id, number⟩⟩ := fault
    case file        =>
      refine .of_eq .tableFile ((report_of_single (m := fileMessage fault) rfl rfl).trans ?_)
      simp [← String.toList_inj, fileMessage]
    case table.noTab =>
      refine .of_eq .noTab ((report_of_nil (m := "failed to parse " ++ path.text ++ ": " ++
        ("line " ++ toString n ++ ": " ++ "expected `id<TAB>name`")) rfl rfl).trans ?_)
      simp [← String.toList_inj]
    case table.badId =>
      refine .of_eq .badId ((report_of_nil (m := "failed to parse " ++ path.text ++ ": " ++
        ("line " ++ toString n ++ ": " ++
          ("bad id " ++ Text.quoted id ++ ": " ++ number.message))) rfl rfl).trans ?_)
      simp [← String.toList_inj]
  case output fault            =>
    cases fault
    case file fault           =>
      refine .of_eq .outputFile ((report_of_single (m := fileMessage fault) rfl rfl).trans ?_)
      simp [← String.toList_inj, fileMessage]
    case scripts failed total =>
      refine .of_eq .scripts ((report_of_nil (m := toString failed ++ " of " ++ toString total ++
        " scripts failed to emit") rfl rfl).trans ?_)
      simp [← String.toList_inj]

end Failure
end ClientScript.CommandLine
