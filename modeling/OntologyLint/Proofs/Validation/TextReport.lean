import OntologyLint.Proofs.Violation.Sections
import OntologyLint.Validation.Run
import OntologyLint.Validation.TextReport

set_option autoImplicit false

/-! What a text report shows. It lists the violations of a set section by section, each of them once
and under the heading of its kind, and it closes with the numbers of the sections and their sum. -/

namespace OntologyLint

/-- The text of one section: its heading, a line for each violation, and an empty line. -/
def sectionText (part : ViolationKind × List Violation) : String :=
  part.1.name ++ ":\n" ++
    String.join (part.2.map (fun violation => "  - " ++ violation.display ++ "\n")) ++ "\n"

theorem Sections.nodup_names {violations : List Violation}
    {sections : List (ViolationKind × List Violation)} (cut : Sections violations sections) :
    (sections.map (fun part => part.1.name)).Nodup := by
  have names := cut.kinds.nodup.map ViolationKind.name_injective
  rw [List.map_map] at names
  exact names

namespace Report

variable {report : Report}

theorem join_sectionLines (report : Report) (kind : ViolationKind) :
    String.join ((report.sectionLines kind).map (· ++ "\n")) =
      sectionText (kind, report.violations.ofKind kind) := by
  simp only [sectionLines, sectionText, List.map_append, List.map_cons, List.map_map, List.map_nil,
    List.cons_append, String.join_cons, String.join_append, String.join_nil, String.append_assoc,
    Function.comp_def]
  rfl

/-- A text report is the text of its sections, and the closing line. -/
theorem text_eq (report : Report) :
    report.text =
      String.join (report.violations.sections.map sectionText) ++ report.closingLine ++ "\n" := by
  have parts (kinds : List ViolationKind) :
      String.join ((kinds.flatMap report.sectionLines).map (· ++ "\n")) =
        String.join (kinds.map (fun kind => sectionText (kind, report.violations.ofKind kind))) := by
    induction kinds with
    | nil => rfl
    | cons kind rest ih =>
        rw [List.flatMap_cons, List.map_append, String.join_append, join_sectionLines, ih,
          List.map_cons, String.join_cons]
  rw [text, lines, List.map_append, String.join_append, parts, ViolationSet.sections, List.map_map,
    String.append_assoc, List.map_singleton, String.join_cons, String.join_nil,
    String.append_empty]
  rfl

theorem kindCounts_eq (report : Report) :
    report.kindCounts = report.violations.sections.map (fun part => (part.2.length, part.1)) := by
  rw [ViolationSet.sections, List.map_map]
  rfl

theorem summary_of_found (found : report.violations.size ≠ 0) :
    report.summary =
      toString report.violations.size ++
        (if report.violations.size = 1 then " violation (" else " violations (") ++
        ", ".intercalate (report.kindCounts.map
          (fun (count, kind) => toString count ++ " " ++ kind.name)) ++ ")" :=
  if_neg found

/-- A summary with counts ends in a bracket, which the one without counts does not. -/
theorem summary_eq_none_iff :
    report.summary = "no violations" ↔ report.violations.size = 0 := by
  constructor
  · intro none
    by_contra found
    rw [summary_of_found found] at none
    have last := congrArg (fun text => text.toList.getLast?) none
    have bracket : ")".toList.getLast? = some ')' := by decide
    rw [String.toList_append, List.getLast?_append, bracket, Option.some_or] at last
    exact absurd last (by decide)
  · exact fun empty => if_pos empty

/-- A summary that gives the number of the violations of each kind, and their sum. -/
structure SumsUp (report : Report) (counts : List (Nat × ViolationKind)) : Prop where
  positive : ∀ entry ∈ counts, 0 < entry.1
  distinct : (counts.map Prod.snd).Nodup
  total : (counts.map Prod.fst).sum = report.violations.size
  words : report.violations ≠ ∅ → report.summary =
    toString report.violations.size ++
      (if report.violations.size = 1 then " violation (" else " violations (") ++
      ", ".intercalate (counts.map (fun (count, kind) => toString count ++ " " ++ kind.name)) ++ ")"
  silent : report.summary = "no violations" ↔ report.violations = ∅

theorem sumsUp {sections : List (ViolationKind × List Violation)}
    (cut : Sections report.violations.toList sections) :
    report.SumsUp (sections.map (fun part => (part.2.length, part.1))) where
  positive := by
    intro entry listed
    obtain ⟨part, member, rfl⟩ := List.mem_map.1 listed
    exact List.length_pos_of_ne_nil (cut.filled part member)
  distinct := by
    rw [List.map_map]
    exact cut.kinds.nodup
  total := by
    rw [List.map_map]
    exact cut.sum_length
  words := by
    intro found
    rw [cut.eq_sections, ← kindCounts_eq]
    exact summary_of_found (fun none => found (SortedSet.size_eq_zero_iff.1 none))
  silent := summary_eq_none_iff.trans SortedSet.size_eq_zero_iff

end Report

/-- A text report lists what validation has found, all of it once and in order: kind after kind, each
under its heading. Its last line sums up the sections. -/
theorem text_report_complete (report : Report) :
    report.violations.kinds.toList.flatMap report.violations.ofKind = report.violations.toList ∧
    ∃ sections, Sections report.violations.toList sections ∧
      (∀ other, Sections report.violations.toList other → other = sections) ∧
      (sections.map (fun part => part.1.name)).Nodup ∧ (sections.flatMap Prod.snd).Nodup ∧
      report.text = String.join (sections.map sectionText) ++ report.closingLine ++ "\n" ∧
      report.SumsUp (sections.map (fun part => (part.2.length, part.1))) ∧
      ∀ (options : Options) (data schema : Graph), report = options.run data schema →
        sections.flatMap Prod.snd = (options.validate data schema).toList := by
  have cut := report.violations.sections_cut
  refine ⟨report.violations.flatMap_ofKind, report.violations.sections, cut, ?_,
    cut.nodup_names, ?_, report.text_eq, Report.sumsUp cut, ?_⟩
  · intro other otherCut
    exact otherCut.eq_sections
  · rw [cut.whole]
    exact report.violations.increasing.nodup
  · intro options data schema same
    rw [cut.whole, same]
    rfl

end OntologyLint
