import OntologyLint.Document.Loading
import OntologyLint.Proofs.Determined

set_option autoImplicit false

/-! What loading gives. Files that can all be read make one graph of all their statements; otherwise the
first file that cannot be read says why. The number of a document is its place among the files, and it
matters only to the labels of nodes without a name. -/

namespace OntologyLint.Loader

/-- The path leads to a file in a known format, and its text has the statements. -/
def Reads (loader : Loader) (forced : Option GraphFormat) (document : Nat) (path : String)
    (quads : List Quad) : Prop :=
  ∃ format text, forced.or (GraphFormat.ofPath? path) = some format ∧
    loader.disk path = .ok (.file text) ∧ loader.read? format document text = some quads

/-- What is wrong with a path: its format is unknown, or else it leads nowhere, or else what it leads to
has no text in that format. -/
inductive Refuses (loader : Loader) (forced : Option GraphFormat) (document : Nat) (path : String) :
    LoadError → Prop
  | unknownFormat (unknown : forced.or (GraphFormat.ofPath? path) = none) :
      Refuses loader forced document path (.unknownFormat path)
  | unopened {format : GraphFormat} {failure : OpenFailure}
      (known : forced.or (GraphFormat.ofPath? path) = some format)
      (failed : loader.disk path = .error failure) :
      Refuses loader forced document path (.unopened path failure)
  | unreadable {format : GraphFormat} {opened : Opened}
      (known : forced.or (GraphFormat.ofPath? path) = some format)
      (opens : loader.disk path = .ok opened)
      (unread : ∀ text, opened = .file text → loader.read? format document text = none) :
      Refuses loader forced document path (.unreadable path)

/-- Every path of a list can be read. The documents are numbered from `first` on. -/
def ReadsAll (loader : Loader) (forced : Option GraphFormat) (first : Nat) (paths : List String) :
    Prop :=
  ∀ entry ∈ paths.zipIdx first, ∃ quads, loader.Reads forced entry.2 entry.1 quads

/-- The first path that cannot be read is refused for the reason. -/
def RefusesFirst (loader : Loader) (forced : Option GraphFormat) (first : Nat) (paths : List String)
    (error : LoadError) : Prop :=
  ∃ before path after, paths = before ++ path :: after ∧ loader.ReadsAll forced first before ∧
    loader.Refuses forced (first + before.length) path error

/-- The triple is stated in one of the files, under whatever graph name. -/
def States (loader : Loader) (forced : Option GraphFormat) (first : Nat) (paths : List String)
    (triple : Triple) : Prop :=
  ∃ entry ∈ paths.zipIdx first, ∃ quads, loader.Reads forced entry.2 entry.1 quads ∧
    ∃ quad ∈ quads, quad.statement.triple = triple

/-- The parsers find the same statements in a text whatever number its document has. -/
def Steady (loader : Loader) : Prop :=
  ∀ format one other text, loader.read? format one text = loader.read? format other text

variable {loader : Loader} {forced : Option GraphFormat} {document first second : Nat}
  {path : String} {paths others : List String} {quads : List Quad} {error : LoadError}

section File

theorem Reads.quads_eq (reads : loader.Reads forced document path quads) :
    loader.quads forced document path = .ok quads := by
  obtain ⟨format, text, known, opens, read⟩ := reads
  simp only [Loader.quads, known, opens, read]

theorem Refuses.quads_eq (refuses : loader.Refuses forced document path error) :
    loader.quads forced document path = .error error := by
  cases refuses with
  | unknownFormat unknown => simp only [Loader.quads, unknown]
  | unopened known failed => simp only [Loader.quads, known, failed]
  | @unreadable format opened known opens unread =>
      cases opened with
      | directory => simp only [Loader.quads, known, opens]
      | file text => simp only [Loader.quads, known, opens, unread text rfl]

theorem reads_or_refuses (loader : Loader) (forced : Option GraphFormat) (document : Nat)
    (path : String) :
    (∃ quads, loader.Reads forced document path quads) ∨
      ∃ error, loader.Refuses forced document path error := by
  cases known : forced.or (GraphFormat.ofPath? path) with
  | none => exact Or.inr ⟨_, .unknownFormat known⟩
  | some format =>
      cases opens : loader.disk path with
      | error failure => exact Or.inr ⟨_, .unopened known opens⟩
      | ok opened =>
          cases opened with
          | directory => exact Or.inr ⟨_, .unreadable known opens (fun text same => nomatch same)⟩
          | file text =>
              cases read : loader.read? format document text with
              | some quads => exact Or.inl ⟨quads, format, text, known, opens, read⟩
              | none =>
                  refine Or.inr ⟨_, .unreadable known opens ?_⟩
                  rintro _ ⟨⟩
                  exact read

end File

section Row

theorem readsAll_cons :
    loader.ReadsAll forced first (path :: paths) ↔
      (∃ quads, loader.Reads forced first path quads) ∧
        loader.ReadsAll forced (first + 1) paths := by
  unfold ReadsAll
  rw [List.zipIdx_cons, List.forall_mem_cons]

theorem states_cons {triple : Triple} :
    loader.States forced first (path :: paths) triple ↔
      (∃ quads, loader.Reads forced first path quads ∧
        ∃ quad ∈ quads, quad.statement.triple = triple) ∨
        loader.States forced (first + 1) paths triple := by
  unfold States
  simp only [List.zipIdx_cons, List.mem_cons, or_and_right, exists_or, exists_eq_left]

theorem Reads.unique {others : List Quad} (one : loader.Reads forced document path quads)
    (other : loader.Reads forced document path others) : quads = others := by
  cases one.quads_eq.symm.trans other.quads_eq
  rfl

theorem ReadsAll.statements_eq (all : loader.ReadsAll forced first paths) :
    ∃ statements, loader.statements forced first paths = .ok statements ∧
      ∀ triple, (∃ statement ∈ statements, statement.triple = triple) ↔
        loader.States forced first paths triple := by
  induction paths generalizing first with
  | nil =>
      refine ⟨[], rfl, ?_⟩
      intro triple
      exact iff_of_false (fun ⟨_, found, _⟩ => nomatch found) (fun ⟨_, found, _⟩ => nomatch found)
  | cons path rest ih =>
      obtain ⟨⟨quads, reads⟩, later⟩ := readsAll_cons.1 all
      obtain ⟨statements, loaded, stated⟩ := ih later
      refine ⟨quads.map Quad.statement ++ statements, ?_, ?_⟩
      · rw [Loader.statements, reads.quads_eq, loaded]
        rfl
      · intro triple
        rw [states_cons, ← stated]
        constructor
        · rintro ⟨statement, found, same⟩
          rcases List.mem_append.1 found with here | there
          · obtain ⟨quad, member, rfl⟩ := List.mem_map.1 here
            exact Or.inl ⟨quads, reads, quad, member, same⟩
          · exact Or.inr ⟨statement, there, same⟩
        · rintro (⟨others, othersRead, quad, member, same⟩ | ⟨statement, there, same⟩)
          · rw [← reads.unique othersRead] at member
            exact ⟨quad.statement, List.mem_append_left _ (List.mem_map.2 ⟨quad, member, rfl⟩), same⟩
          · exact ⟨statement, List.mem_append_right _ there, same⟩

theorem RefusesFirst.statements_eq (refuses : loader.RefusesFirst forced first paths error) :
    loader.statements forced first paths = .error error := by
  obtain ⟨before, path, after, rfl, readable, refused⟩ := refuses
  induction before generalizing first with
  | nil =>
      have here : loader.Refuses forced first path error := refused
      rw [List.nil_append, Loader.statements, here.quads_eq]
      rfl
  | cons head tail ih =>
      obtain ⟨⟨quads, reads⟩, later⟩ := readsAll_cons.1 readable
      rw [List.length_cons, Nat.add_comm tail.length, ← Nat.add_assoc] at refused
      rw [List.cons_append, Loader.statements, reads.quads_eq, ih later refused]
      rfl

theorem readsAll_or_refusesFirst (loader : Loader) (forced : Option GraphFormat) (first : Nat)
    (paths : List String) :
    loader.ReadsAll forced first paths ∨ ∃ error, loader.RefusesFirst forced first paths error := by
  induction paths generalizing first with
  | nil => exact Or.inl (fun entry listed => nomatch listed)
  | cons path rest ih =>
      rcases loader.reads_or_refuses forced first path with reads | ⟨error, refuses⟩
      · rcases ih (first + 1) with all | ⟨error, before, other, after, rfl, readable, refused⟩
        · exact Or.inl (readsAll_cons.2 ⟨reads, all⟩)
        · refine Or.inr ⟨error, path :: before, other, after, rfl,
            readsAll_cons.2 ⟨reads, readable⟩, ?_⟩
          rw [List.length_cons, Nat.add_comm before.length, ← Nat.add_assoc]
          exact refused
      · exact Or.inr ⟨error, [], path, rest, rfl, (fun entry listed => nomatch listed), refuses⟩

end Row

section Graph

variable {graph : Graph}

theorem ReadsAll.graph_eq (all : loader.ReadsAll forced first paths) :
    ∃ graph, loader.graph forced first paths = .ok graph ∧
      ∀ triple, triple ∈ graph ↔ loader.States forced first paths triple := by
  obtain ⟨statements, loaded, stated⟩ := all.statements_eq
  refine ⟨Graph.ofStatements statements, ?_, ?_⟩
  · rw [Loader.graph, loaded]
    rfl
  · intro triple
    rw [Graph.mem_ofStatements, stated]

theorem RefusesFirst.graph_eq (refuses : loader.RefusesFirst forced first paths error) :
    loader.graph forced first paths = .error error := by
  rw [Loader.graph, refuses.statements_eq]
  rfl

/-- The graph has exactly the triples that the files state, all of which can be read. -/
def Merges (loader : Loader) (forced : Option GraphFormat) (first : Nat) (paths : List String)
    (graph : Graph) : Prop :=
  loader.ReadsAll forced first paths ∧
    ∀ triple, triple ∈ graph ↔ loader.States forced first paths triple

theorem Merges.graph_eq (merges : loader.Merges forced first paths graph) :
    loader.graph forced first paths = .ok graph := by
  obtain ⟨all, stated⟩ := merges
  obtain ⟨other, loaded, otherStated⟩ := all.graph_eq
  have same : graph = other := by
    ext triple
    rw [stated, otherStated]
  rw [same]
  exact loaded

theorem merges_or_refusesFirst (loader : Loader) (forced : Option GraphFormat) (first : Nat)
    (paths : List String) :
    (∃ graph, loader.Merges forced first paths graph) ∨
      ∃ error, loader.RefusesFirst forced first paths error := by
  rcases loader.readsAll_or_refusesFirst forced first paths with all | refuses
  · obtain ⟨graph, _loaded, stated⟩ := all.graph_eq
    exact Or.inl ⟨graph, all, stated⟩
  · exact Or.inr refuses

theorem graph_eq_ok_iff :
    loader.graph forced first paths = .ok graph ↔ loader.Merges forced first paths graph :=
  eq_ok_iff_of_determined (fun _ => Merges.graph_eq) (fun _ => RefusesFirst.graph_eq)
    (loader.merges_or_refusesFirst forced first paths)

theorem graph_eq_error_iff :
    loader.graph forced first paths = .error error ↔
      loader.RefusesFirst forced first paths error :=
  eq_error_iff_of_determined (fun _ => Merges.graph_eq) (fun _ => RefusesFirst.graph_eq)
    (loader.merges_or_refusesFirst forced first paths)

theorem exists_graph_iff :
    (∃ graph, loader.graph forced first paths = .ok graph) ↔ loader.ReadsAll forced first paths := by
  constructor
  · rintro ⟨graph, loaded⟩
    exact (graph_eq_ok_iff.1 loaded).1
  · intro all
    obtain ⟨graph, loaded, _stated⟩ := all.graph_eq
    exact ⟨graph, loaded⟩

end Graph

section Rearranged

theorem exists_numbered (paths : List String) (first : Nat) :
    path ∈ paths ↔ ∃ entry ∈ paths.zipIdx first, entry.1 = path := by
  rw [← List.mem_map, List.zipIdx_map_fst]

theorem Steady.reads (steady : loader.Steady) (reads : loader.Reads forced first path quads)
    (second : Nat) : loader.Reads forced second path quads := by
  obtain ⟨format, text, known, opens, read⟩ := reads
  exact ⟨format, text, known, opens, (steady format second first text).trans read⟩

variable (steady : loader.Steady) (same : ∀ path, path ∈ paths ↔ path ∈ others)

include steady same

theorem Steady.readsAll (all : loader.ReadsAll forced first paths) (second : Nat) :
    loader.ReadsAll forced second others := by
  intro entry numbered
  have listed : entry.1 ∈ others := (exists_numbered others second).2 ⟨entry, numbered, rfl⟩
  obtain ⟨partner, partnerNumbered, samePath⟩ :=
    (exists_numbered paths first).1 ((same entry.1).2 listed)
  obtain ⟨quads, reads⟩ := all partner partnerNumbered
  rw [← samePath]
  exact ⟨quads, steady.reads reads entry.2⟩

theorem Steady.states {triple : Triple} (stated : loader.States forced first paths triple)
    (second : Nat) : loader.States forced second others triple := by
  obtain ⟨entry, numbered, quads, reads, found⟩ := stated
  have listed : entry.1 ∈ paths := (exists_numbered paths first).2 ⟨entry, numbered, rfl⟩
  obtain ⟨partner, partnerNumbered, samePath⟩ :=
    (exists_numbered others second).1 ((same entry.1).1 listed)
  refine ⟨partner, partnerNumbered, quads, ?_, found⟩
  rw [samePath]
  exact steady.reads reads partner.2

/-- With steady parsers the order and the repetition of the paths make no difference. -/
theorem Steady.graph_eq {graph : Graph} (loaded : loader.graph forced first paths = .ok graph)
    (second : Nat) : loader.graph forced second others = .ok graph := by
  obtain ⟨all, stated⟩ := graph_eq_ok_iff.1 loaded
  refine graph_eq_ok_iff.2 ⟨steady.readsAll same all second, ?_⟩
  intro triple
  rw [stated]
  exact ⟨fun found => steady.states same found second,
    fun found => steady.states (fun path => (same path).symm) found first⟩

end Rearranged

end OntologyLint.Loader
