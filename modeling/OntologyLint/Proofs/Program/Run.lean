import OntologyLint.Program.Run
import OntologyLint.Proofs.Document.Loading
import OntologyLint.Proofs.SortedSet

set_option autoImplicit false

/-! How a run ends. The schema is loaded before the data, so what is wrong with the schema is reported
whatever the data is like; a run with both graphs ends in a report, and its outcome tells whether
violations were found that count. -/

namespace OntologyLint

namespace Settings

/-- How a run with the settings ends. -/
inductive Ends (settings : Settings) (loader : Loader) : Except RunError Report → Prop
  | schemaRefused (cause : LoadError)
      (refused : loader.RefusesFirst settings.inputFormat 0 settings.schema cause) :
      Ends settings loader (.error (.loading .schema cause))
  | dataRefused (cause : LoadError)
      (schemaRead : loader.ReadsAll settings.inputFormat 0 settings.schema)
      (refused : loader.RefusesFirst settings.inputFormat settings.schema.length settings.data cause) :
      Ends settings loader (.error (.loading .data cause))
  | reported (schema data : Graph)
      (schemaLoaded : loader.graph settings.inputFormat 0 settings.schema = .ok schema)
      (dataLoaded : loader.graph settings.inputFormat settings.schema.length settings.data = .ok data) :
      Ends settings loader (.ok (settings.options.run data schema))

variable {settings : Settings} {loader : Loader} {result : Except RunError Report}

theorem Ends.report_eq (ends : settings.Ends loader result) : settings.report loader = result := by
  cases ends with
  | schemaRefused cause refused =>
      simp only [report, load, refused.graph_eq]
      rfl
  | dataRefused cause schemaRead refused =>
      obtain ⟨schema, loaded, _stated⟩ := schemaRead.graph_eq
      simp only [report, load, loaded, refused.graph_eq]
      rfl
  | reported schema data schemaLoaded dataLoaded =>
      simp only [report, load, schemaLoaded, dataLoaded]
      rfl

theorem exists_ends (settings : Settings) (loader : Loader) :
    ∃ result, settings.Ends loader result := by
  rcases loader.readsAll_or_refusesFirst settings.inputFormat 0 settings.schema with
    schemaRead | ⟨cause, refused⟩
  · rcases loader.readsAll_or_refusesFirst settings.inputFormat settings.schema.length
      settings.data with dataRead | ⟨cause, refused⟩
    · obtain ⟨schema, schemaLoaded, _stated⟩ := schemaRead.graph_eq
      obtain ⟨data, dataLoaded, _stated⟩ := dataRead.graph_eq
      exact ⟨_, .reported schema data schemaLoaded dataLoaded⟩
    · exact ⟨_, .dataRefused cause schemaRead refused⟩
  · exact ⟨_, .schemaRefused cause refused⟩

/-- There is one way in which a run ends. -/
theorem report_eq_iff : settings.report loader = result ↔ settings.Ends loader result :=
  eq_iff_of_determined (fun _ => Ends.report_eq) (exists_ends settings loader)

theorem outcome_eq_violations_iff {report : Report} :
    settings.outcome report = .violations ↔
      report.violations ≠ ∅ ∧ settings.failOnViolations = true := by
  have valid : report.isValid = true ↔ report.violations = ∅ := SortedSet.isEmpty_iff
  unfold outcome
  rw [ne_eq, ← valid]
  cases report.isValid <;> cases settings.failOnViolations <;> decide

end Settings

/-- Loading gives the graph of all that the files state, if all of them can be read, and otherwise the
reason why the first one that cannot be read is refused; where parsers look at nothing but the text,
files can be named in any order and again. A run loads the schema and then the data, and ends in what
is wrong with the first of them, or in a report. -/
theorem run_merges_or_reports_first_failure (loader : Loader) (settings : Settings) :
    (∀ forced first paths,
      ((∃ graph, loader.graph forced first paths = .ok graph) ↔
        loader.ReadsAll forced first paths) ∧
      (∀ graph, loader.graph forced first paths = .ok graph →
        ∀ triple, triple ∈ graph ↔ loader.States forced first paths triple) ∧
      (∀ error, loader.graph forced first paths = .error error ↔
        loader.RefusesFirst forced first paths error)) ∧
    (loader.Steady → ∀ forced first second paths others graph,
      (∀ path, path ∈ paths ↔ path ∈ others) → loader.graph forced first paths = .ok graph →
        loader.graph forced second others = .ok graph) ∧
    (∀ result, settings.report loader = result ↔ settings.Ends loader result) ∧
    (∀ data schema, settings.outcome (settings.options.run data schema) = .violations ↔
      settings.options.validate data schema ≠ ∅ ∧ settings.failOnViolations = true) := by
  refine ⟨?_, ?_, fun _ => Settings.report_eq_iff, fun _ _ => Settings.outcome_eq_violations_iff⟩
  · intro forced first paths
    refine ⟨Loader.exists_graph_iff, ?_, fun _ => Loader.graph_eq_error_iff⟩
    intro graph loaded
    exact (Loader.graph_eq_ok_iff.1 loaded).2
  · intro steady forced first second paths others graph same loaded
    exact steady.graph_eq same loaded second

/-! Two files in two formats, one of which files its statement under a name. The second is named twice
when they are loaded again. -/

namespace Loader

def sampleTree : FileTree := ⟨[
  ("ann.nt", "<e:ann> <e:knows> <e:bob> .\n"),
  ("more.NQ", "<e:bob> <e:knows> <e:cid> <e:page> .\n")]⟩

def sampleLoader : Loader := ⟨sampleTree.disk, fun format _document text => format.read? 0 text⟩

theorem sampleLoader_read? (format : GraphFormat) (document : Nat) (text : String) :
    sampleLoader.read? format document text = format.read? 0 text := rfl

def sampleKnows (one other : String) : Statement := ⟨.iri one, "e:knows", .resource (.iri other)⟩

theorem sampleLoader_reads_ann (document : Nat) :
    sampleLoader.Reads none document "ann.nt" [⟨sampleKnows "e:ann" "e:bob", none⟩] := by
  have read : GraphFormat.nTriples.read? 0 "<e:ann> <e:knows> <e:bob> .\n" =
      some [⟨sampleKnows "e:ann" "e:bob", none⟩] := by decide +kernel
  exact ⟨.nTriples, "<e:ann> <e:knows> <e:bob> .\n", by decide +kernel, rfl,
    (sampleLoader_read? _ _ _).trans read⟩

theorem sampleLoader_reads_more (document : Nat) :
    sampleLoader.Reads none document "more.NQ"
      [⟨sampleKnows "e:bob" "e:cid", some (.iri "e:page")⟩] := by
  have read : GraphFormat.nQuads.read? 0 "<e:bob> <e:knows> <e:cid> <e:page> .\n" =
      some [⟨sampleKnows "e:bob" "e:cid", some (.iri "e:page")⟩] := by decide +kernel
  exact ⟨.nQuads, "<e:bob> <e:knows> <e:cid> <e:page> .\n", by decide +kernel, rfl,
    (sampleLoader_read? _ _ _).trans read⟩

theorem sampleLoader_graph :
    sampleLoader.graph none 0 ["ann.nt", "more.NQ"] =
      .ok (.ofStatements [sampleKnows "e:ann" "e:bob", sampleKnows "e:bob" "e:cid"]) := by
  simp only [graph, statements, (sampleLoader_reads_ann _).quads_eq,
    (sampleLoader_reads_more _).quads_eq]
  rfl

end Loader

open Loader in
theorem loading_again_gives_the_graph :
    sampleLoader.Steady ∧
      (∀ path, path ∈ ["ann.nt", "more.NQ"] ↔ path ∈ ["more.NQ", "ann.nt", "more.NQ"]) ∧
      sampleLoader.graph none 5 ["more.NQ", "ann.nt", "more.NQ"] =
        .ok (.ofStatements [sampleKnows "e:ann" "e:bob", sampleKnows "e:bob" "e:cid"]) := by
  have steady : sampleLoader.Steady := by
    intro format one other text
    rw [sampleLoader_read?, sampleLoader_read?]
  have same : ∀ path, path ∈ ["ann.nt", "more.NQ"] ↔ path ∈ ["more.NQ", "ann.nt", "more.NQ"] := by
    intro path
    simp only [List.mem_cons, List.not_mem_nil, or_false]
    grind
  obtain ⟨_loads, rearranged, _run⟩ :=
    run_merges_or_reports_first_failure sampleLoader { schema := [], data := [], checks := ∅ }
  exact ⟨steady, same, rearranged steady none 0 5 _ _ _ same sampleLoader_graph⟩

end OntologyLint
