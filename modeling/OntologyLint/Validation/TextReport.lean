import OntologyLint.Validation.Report

set_option autoImplicit false

/-! Reports for readers: the violations under headings by kind, and a line that sums them up. -/

namespace OntologyLint.Report

def kindCounts (report : Report) : List (Nat × ViolationKind) :=
  report.violations.kinds.toList.map (fun kind => (report.violations.countOf kind, kind))

def summary (report : Report) : String :=
  let total := report.violations.size
  if total = 0 then "no violations"
  else
    toString total ++ (if total = 1 then " violation (" else " violations (") ++
      ", ".intercalate
        (report.kindCounts.map (fun (count, kind) => toString count ++ " " ++ kind.name)) ++ ")"

def sectionLines (report : Report) (kind : ViolationKind) : List String :=
  (kind.name ++ ":") ::
    (report.violations.ofKind kind).map (fun violation => "  - " ++ violation.display) ++ [""]

def closingLine (report : Report) : String :=
  report.summary ++ " (" ++ toString report.stats.dataTriples ++ " data triples, " ++
    toString report.stats.schemaTriples ++ " schema triples, " ++
    toString report.stats.durationMs ++ " ms)"

def lines (report : Report) : List String :=
  report.violations.kinds.toList.flatMap report.sectionLines ++ [report.closingLine]

def text (report : Report) : String := String.join (report.lines.map (· ++ "\n"))

end OntologyLint.Report
