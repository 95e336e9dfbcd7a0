import OntologyLint.Json.Printer
import OntologyLint.Validation.Report
import OntologyLint.Violation.Json

set_option autoImplicit false

/-! Reports for programs: one JSON object with the violations and the figures. -/

namespace OntologyLint

def CheckStats.json (stats : CheckStats) : Json :=
  .object [
    ("check", .string stats.check.name),
    ("targets", .natural stats.targets),
    ("violations", .natural stats.violations),
    ("duration_ms", .natural stats.durationMs)]

def CacheCounts.json (counts : CacheCounts) : Json :=
  .object [
    ("cached", .natural counts.cached),
    ("hits", .natural counts.hits),
    ("misses", .natural counts.misses)]

def RunStats.json (stats : RunStats) : Json :=
  .object [
    ("data_triples", .natural stats.dataTriples),
    ("schema_triples", .natural stats.schemaTriples),
    ("declared_properties", .natural stats.declaredProperties),
    ("disjoint_pairs", .natural stats.disjointPairs),
    ("checks", .list (stats.checks.map CheckStats.json)),
    ("resolver", stats.cache.json),
    ("duration_ms", .natural stats.durationMs)]

def Report.json (report : Report) : Json :=
  .object [("violations", report.violations.json), ("stats", report.stats.json)]

def Report.jsonText (report : Report) : String := report.json.pretty

end OntologyLint
