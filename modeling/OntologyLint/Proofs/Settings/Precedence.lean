import Mathlib.Data.List.Forall2
import OntologyLint.Proofs.Settings.ConfigFile
import OntologyLint.Proofs.SortedSet
import OntologyLint.Settings.Basic

set_option autoImplicit false

/-! Where the settings of a run come from. The command line goes before the configuration file, and the
file before the defaults; paths in the file start from its directory. What is wrong is told in order:
the file, then the inputs, then the checks. -/

namespace OntologyLint.Settings

variable {α : Type}

/-- A list of the command line is taken if there is something in it. Otherwise the entries of the file
stand for what they mean there, and the default is left if the file has no list either. -/
inductive Chosen (given filed : Option (List α)) (Means : α → α → Prop) (fallback : List α) :
    List α → Prop
  | onLine {items : List α} (said : given = some items) (listed : items ≠ []) :
      Chosen given filed Means fallback items
  | inFile {items meant : List α} (silent : given = none ∨ given = some [])
      (said : filed = some items) (means : List.Forall₂ Means items meant) :
      Chosen given filed Means fallback meant
  | nowhere (silent : given = none ∨ given = some []) (absent : filed = none) :
      Chosen given filed Means fallback fallback

/-- A value of the command line goes before one of the file, and this before the default. -/
inductive Told (given filed fallback : Option α) : Option α → Prop
  | onLine {value : α} (said : given = some value) : Told given filed fallback (some value)
  | inFile {value : α} (silent : given = none) (said : filed = some value) :
      Told given filed fallback (some value)
  | nowhere (silent : given = none) (absent : filed = none) : Told given filed fallback fallback

/-- What a path of a configuration file stands for. A relative one leads on from the directory of the
file, which lies where all names on its path but the last lead to. -/
inductive SeenFrom (config : Option String) : String → String → Prop
  | absolute {path : String} (rooted : Path.isAbsolute path = true) : SeenFrom config path path
  | relative {file written path : String} (placed : config = some file)
      (unrooted : Path.isAbsolute written = false)
      (joined : path = Path.join (Path.parent file) written)
      (leads : FileTree.namesOf path = (FileTree.namesOf file).dropLast ++ FileTree.namesOf written)
      (root : Path.isAbsolute path = Path.isAbsolute file) : SeenFrom config written path

inductive Gives (disk : Disk) (read? : ConfigNotation → String → Option PartialSettings) :
    Option String → PartialSettings → Prop
  | unnamed : Gives disk read? none {}
  | named {path : String} {file : PartialSettings}
      (given : PartialSettings.ReadFrom disk read? path file) : Gives disk read? (some path) file

/-- The settings come from the arguments and the file in the order of precedence. -/
structure Follows (arguments : Arguments) (file : PartialSettings) (settings : Settings) : Prop where
  schema : Chosen arguments.schema file.schema (SeenFrom arguments.config) [] settings.schema
  data : Chosen arguments.data file.data (SeenFrom arguments.config) [] settings.data
  checks : ∃ checks, Chosen arguments.checks file.checks Eq Check.all checks ∧
    ∀ check, check ∈ settings.checks ↔ check ∈ checks
  inputFormat : Told arguments.inputFormat file.inputFormat none settings.inputFormat
  output : Told arguments.format file.format (some .text) (some settings.output)
  parallel : settings.parallel = true ↔
    arguments.noParallel ≠ some true ∧ file.parallel ≠ some false
  datatypesDisjoint : settings.datatypesDisjoint = true ↔
    arguments.datatypesDisjoint = some true ∨ file.datatypesDisjoint = some true
  failOnViolations : settings.failOnViolations = true ↔
    arguments.noFail ≠ some true ∧ file.failOnViolations ≠ some false

/-- Settings are accepted if there are inputs of both sorts and checks; what is missing is told in this
order. -/
inductive Judged (settings : Settings) : Except SettingsError Settings → Prop
  | noSchema (empty : settings.schema = []) : Judged settings (.error .noSchema)
  | noData (schema : settings.schema ≠ []) (empty : settings.data = []) :
      Judged settings (.error .noData)
  | noChecks (schema : settings.schema ≠ []) (data : settings.data ≠ [])
      (empty : settings.checks = ∅) : Judged settings (.error .noChecks)
  | accepted (schema : settings.schema ≠ []) (data : settings.data ≠ [])
      (checks : settings.checks ≠ ∅) : Judged settings (.ok settings)

/-- What arguments lead to: the fault of the configuration file that they name, or the verdict on the
settings that come from both. -/
inductive LeadsTo (disk : Disk) (read? : ConfigNotation → String → Option PartialSettings)
    (arguments : Arguments) : Except SettingsError Settings → Prop
  | refused {path : String} {error : SettingsError} (named : arguments.config = some path)
      (refused : PartialSettings.Refused disk read? path error) :
      LeadsTo disk read? arguments (.error error)
  | judged {file : PartialSettings} {settings : Settings} {result : Except SettingsError Settings}
      (gives : Gives disk read? arguments.config file) (follows : Follows arguments file settings)
      (judged : settings.Judged result) : LeadsTo disk read? arguments result

section Choice

variable {given filed fallback : Option α} {value : Option α}

theorem told_iff : Told given filed fallback value ↔ value = (given.or filed).or fallback := by
  constructor
  · intro told
    cases told with
    | onLine said => simp [said]
    | inFile silent said => simp [silent, said]
    | nowhere silent absent => simp [silent, absent]
  · rintro rfl
    cases said : given with
    | some value => exact .onLine rfl
    | none =>
        cases found : filed with
        | some value => exact .inFile rfl rfl
        | none => exact .nowhere rfl rfl

theorem unlessOff_iff {off inFile : Option Bool} :
    unlessOff off inFile = true ↔ off ≠ some true ∧ inFile ≠ some false := by
  rcases off with _ | (_ | _) <;> rcases inFile with _ | (_ | _) <;> decide

theorem getD_or_getD_iff {given filed : Option Bool} :
    (given.getD false || filed.getD false) = true ↔ given = some true ∨ filed = some true := by
  rcases given with _ | (_ | _) <;> rcases filed with _ | (_ | _) <;> decide

end Choice

section Lists

variable {given filed : Option (List α)} {Means : α → α → Prop} {fallback chosen items : List α}

theorem nonEmpty_eq_none_iff : nonEmpty given = none ↔ given = none ∨ given = some [] := by
  cases given with
  | none => simp [nonEmpty]
  | some items => cases items <;> simp [nonEmpty]

theorem nonEmpty_eq_some_iff : nonEmpty given = some items ↔ given = some items ∧ items ≠ [] := by
  rw [nonEmpty, Option.filter_eq_some_iff, Bool.not_eq_true', List.isEmpty_eq_false_iff]

theorem chosen_iff (mean : α → α)
    (means : ∀ items, filed = some items → ∀ item meant, Means item meant ↔ mean item = meant) :
    Chosen given filed Means fallback chosen ↔
      chosen = ((nonEmpty given).or (filed.map (fun items => items.map mean))).getD fallback := by
  -- Entry by entry, the meaning is a function; so a whole list has one meaning.
  have whole {items meant : List α} (said : filed = some items) :
      List.Forall₂ Means items meant ↔ items.map mean = meant := by
    have graph : Means = fun item meant => mean item = meant :=
      funext₂ (fun item meant => propext (means items said item meant))
    rw [← List.forall₂_eq_eq_eq, List.forall₂_map_left_iff, graph]
  constructor
  · intro choice
    cases choice with
    | onLine said listed => simp [nonEmpty_eq_some_iff.2 ⟨said, listed⟩]
    | inFile silent said sorts =>
        simp [nonEmpty_eq_none_iff.2 silent, said, (whole said).1 sorts]
    | nowhere silent absent => simp [nonEmpty_eq_none_iff.2 silent, absent]
  · rintro rfl
    cases said : nonEmpty given with
    | some items =>
        obtain ⟨same, listed⟩ := nonEmpty_eq_some_iff.1 said
        exact .onLine same listed
    | none =>
        have silent := nonEmpty_eq_none_iff.1 said
        cases found : filed with
        | none => exact .nowhere silent rfl
        | some items => exact .inFile silent rfl ((whole found).2 rfl)

end Lists

section Fields

variable {config : Option String} {file written path : String} {arguments : Arguments}

theorem seenFrom_iff :
    SeenFrom (some file) written path ↔ Path.join (Path.parent file) written = path := by
  constructor
  · intro seen
    cases seen with
    | absolute rooted => rw [Path.join, rooted, Bool.true_or, if_pos rfl]
    | relative placed unrooted joined leads root =>
        cases placed
        exact joined.symm
  · rintro rfl
    cases rooted : Path.isAbsolute written with
    | true =>
        rw [Path.join, rooted, Bool.true_or, if_pos rfl]
        exact .absolute rooted
    | false =>
        refine .relative rfl rooted rfl ?_ ?_
        · rw [Path.namesOf_join rooted, Path.namesOf_parent]
        · rw [Path.isAbsolute_join rooted, Path.isAbsolute_parent]

theorem chosen_paths_iff {given filed : Option (List String)} {paths : List String}
    (placed : config = none → filed = none) :
    Chosen given filed (SeenFrom config) [] paths ↔ paths = pathsOf config given filed := by
  refine chosen_iff (Path.join (baseOf config)) ?_
  intro items said written path
  cases config with
  | none => cases (placed rfl).symm.trans said
  | some file =>
      rw [baseOf, Option.map_some, Option.getD_some]
      exact seenFrom_iff

theorem chosen_checks_iff {given filed : Option (List Check)} {checks : SortedSet Check} :
    (∃ items, Chosen given filed Eq Check.all items ∧ ∀ check, check ∈ checks ↔ check ∈ items) ↔
      checks = checksOf given filed := by
  have kept {items : List Check} : Chosen given filed Eq Check.all items ↔
      items = ((nonEmpty given).or filed).getD Check.all := by
    refine (chosen_iff id (fun _ _ _ _ => Iff.rfl)).trans ?_
    simp
  simp only [kept, exists_eq_left, checksOf]
  constructor
  · intro same
    ext check
    rw [same, SortedSet.mem_ofList]
  · rintro rfl check
    exact SortedSet.mem_ofList

end Fields

section Merging

variable {disk : Disk} {read? : ConfigNotation → String → Option PartialSettings}
  {arguments : Arguments} {file : PartialSettings} {settings : Settings}
  {result : Except SettingsError Settings}

def drawn (arguments : Arguments) (file : PartialSettings) : Settings where
  schema := pathsOf arguments.config arguments.schema file.schema
  data := pathsOf arguments.config arguments.data file.data
  inputFormat := arguments.inputFormat.or file.inputFormat
  output := (arguments.format.or file.format).getD .text
  checks := checksOf arguments.checks file.checks
  parallel := unlessOff arguments.noParallel file.parallel
  datatypesDisjoint :=
    arguments.datatypesDisjoint.getD false || file.datatypesDisjoint.getD false
  failOnViolations := unlessOff arguments.noFail file.failOnViolations

def verdict (settings : Settings) : Except SettingsError Settings :=
  if settings.schema.isEmpty then .error .noSchema
  else if settings.data.isEmpty then .error .noData
  else if settings.checks.isEmpty then .error .noChecks
  else .ok settings

theorem merge_eq_verdict (arguments : Arguments) (file : PartialSettings) :
    merge arguments file = (drawn arguments file).verdict := rfl

theorem Judged.verdict_eq (judged : settings.Judged result) : settings.verdict = result := by
  unfold verdict
  cases judged with
  | noSchema empty => rw [if_pos (List.isEmpty_iff.2 empty)]
  | noData schema empty =>
      rw [if_neg (mt List.isEmpty_iff.1 schema), if_pos (List.isEmpty_iff.2 empty)]
  | noChecks schema data empty =>
      rw [if_neg (mt List.isEmpty_iff.1 schema), if_neg (mt List.isEmpty_iff.1 data),
        if_pos (SortedSet.isEmpty_iff.2 empty)]
  | accepted schema data checks =>
      rw [if_neg (mt List.isEmpty_iff.1 schema), if_neg (mt List.isEmpty_iff.1 data),
        if_neg (mt SortedSet.isEmpty_iff.1 checks)]

theorem exists_judged (settings : Settings) : ∃ result, settings.Judged result := by
  by_cases schema : settings.schema = []
  · exact ⟨_, .noSchema schema⟩
  · by_cases data : settings.data = []
    · exact ⟨_, .noData schema data⟩
    · by_cases checks : settings.checks = ∅
      · exact ⟨_, .noChecks schema data checks⟩
      · exact ⟨_, .accepted schema data checks⟩

theorem follows_iff (placed : arguments.config = none → file = {}) :
    Follows arguments file settings ↔ settings = drawn arguments file := by
  have schemaPlaced : arguments.config = none → file.schema = none := by
    intro absent
    rw [placed absent]
  have dataPlaced : arguments.config = none → file.data = none := by
    intro absent
    rw [placed absent]
  constructor
  · intro follows
    have schema := (chosen_paths_iff schemaPlaced).1 follows.schema
    have data := (chosen_paths_iff dataPlaced).1 follows.data
    have checks := chosen_checks_iff.1 follows.checks
    have inputFormat := told_iff.1 follows.inputFormat
    have output := told_iff.1 follows.output
    have parallel := Bool.eq_iff_iff.2 (follows.parallel.trans unlessOff_iff.symm)
    have datatypes := Bool.eq_iff_iff.2 (follows.datatypesDisjoint.trans getD_or_getD_iff.symm)
    have failing := Bool.eq_iff_iff.2 (follows.failOnViolations.trans unlessOff_iff.symm)
    rw [Option.or_none] at inputFormat
    rw [Option.or_some, Option.some.injEq] at output
    cases settings
    simp only at schema data checks inputFormat output parallel datatypes failing
    rw [schema, data, checks, inputFormat, output, parallel, datatypes, failing]
    rfl
  · rintro rfl
    exact {
      schema := (chosen_paths_iff schemaPlaced).2 rfl
      data := (chosen_paths_iff dataPlaced).2 rfl
      checks := chosen_checks_iff.2 rfl
      inputFormat := told_iff.2 (Option.or_none).symm
      output := told_iff.2 (Option.or_some).symm
      parallel := unlessOff_iff
      datatypesDisjoint := getD_or_getD_iff
      failOnViolations := unlessOff_iff }

theorem Gives.placed (gives : Gives disk read? arguments.config file) :
    arguments.config = none → file = {} := by
  intro absent
  rw [absent] at gives
  cases gives
  rfl

theorem Gives.ofArguments_eq (gives : Gives disk read? arguments.config file) :
    ofArguments disk read? arguments = merge arguments file := by
  unfold ofArguments
  generalize arguments.config = config at gives
  cases gives with
  | unnamed => rfl
  | named given =>
      simp only [given.load_eq]
      rfl

theorem LeadsTo.ofArguments_eq (leads : LeadsTo disk read? arguments result) :
    ofArguments disk read? arguments = result := by
  cases leads with
  | refused named refused =>
      simp only [ofArguments, named, refused.load_eq]
      rfl
  | judged gives follows judged =>
      rw [(follows_iff gives.placed).1 follows] at judged
      rw [gives.ofArguments_eq, merge_eq_verdict, judged.verdict_eq]

theorem gives_or_refused (disk : Disk)
    (read? : ConfigNotation → String → Option PartialSettings) (config : Option String) :
    (∃ file, Gives disk read? config file) ∨
      ∃ path error, config = some path ∧ PartialSettings.Refused disk read? path error := by
  cases config with
  | none => exact Or.inl ⟨{}, .unnamed⟩
  | some path =>
      rcases PartialSettings.readFrom_or_refused disk read? path with
        ⟨file, given⟩ | ⟨error, refused⟩
      · exact Or.inl ⟨file, .named given⟩
      · exact Or.inr ⟨path, error, rfl, refused⟩

theorem exists_leadsTo (disk : Disk)
    (read? : ConfigNotation → String → Option PartialSettings) (arguments : Arguments) :
    ∃ result, LeadsTo disk read? arguments result := by
  rcases gives_or_refused disk read? arguments.config with
    ⟨file, gives⟩ | ⟨path, error, named, refused⟩
  · obtain ⟨result, judged⟩ := exists_judged (drawn arguments file)
    exact ⟨result, .judged gives ((follows_iff gives.placed).2 rfl) judged⟩
  · exact ⟨_, .refused named refused⟩

theorem ofArguments_eq_iff :
    ofArguments disk read? arguments = result ↔ LeadsTo disk read? arguments result :=
  eq_iff_of_determined (fun _ => LeadsTo.ofArguments_eq) (exists_leadsTo disk read? arguments)

/-- No checks are left only if the file asks for none and the command line does not overrule it. -/
theorem Follows.checks_eq_empty_iff (follows : Follows arguments file settings) :
    settings.checks = ∅ ↔
      (arguments.checks = none ∨ arguments.checks = some []) ∧ file.checks = some [] := by
  obtain ⟨checks, chosen, same⟩ := follows.checks
  have empty : settings.checks = ∅ ↔ checks = [] := by
    rw [List.eq_nil_iff_forall_not_mem]
    simp only [← same]
    constructor
    · intro none check
      rw [none]
      exact SortedSet.not_mem_empty check
    · intro absent
      ext check
      exact iff_of_false (absent check) (SortedSet.not_mem_empty check)
  rw [empty]
  cases chosen with
  | onLine said listed =>
      refine iff_of_false listed ?_
      rintro ⟨silent | silent, _filed⟩
      · cases said.symm.trans silent
      · cases said.symm.trans silent
        exact listed rfl
  | inFile silent said means =>
      rw [List.forall₂_eq_eq_eq] at means
      rw [← means, said, Option.some.injEq]
      exact (and_iff_right silent).symm
  | nowhere silent absent =>
      refine iff_of_false (List.cons_ne_nil _ _) ?_
      rintro ⟨_silent, said⟩
      cases absent.symm.trans said

end Merging

/-- Settings follow one order of precedence, and there is one first reason for which there are none. The
checks are missing only if the file leaves none and the command line gives none. -/
theorem settings_follow_precedence_or_fail (disk : Disk)
    (read? : ConfigNotation → String → Option PartialSettings) (arguments : Arguments) :
    (∀ result, ofArguments disk read? arguments = result ↔ LeadsTo disk read? arguments result) ∧
    (∀ file settings, Follows arguments file settings →
      (settings.checks = ∅ ↔
        (arguments.checks = none ∨ arguments.checks = some []) ∧ file.checks = some [])) := by
  exact ⟨fun _result => ofArguments_eq_iff,
    fun _file _settings follows => follows.checks_eq_empty_iff⟩

/-! A file that asks for no checks, and whose paths are seen from its directory. -/

def sampleText : String := "schema: [../shapes.ttl, /base.nt]\nchecks: []\n"

def sampleDisk : Disk := (FileTree.mk [("conf/lint.YML", sampleText)]).disk

def sampleFile : PartialSettings where
  schema := some ["../shapes.ttl", "/base.nt"]
  checks := some []

def sampleArguments : Arguments where
  config := some "conf/lint.YML"
  data := some ["ann.nt"]

theorem sampleFile_gives :
    Gives sampleDisk ConfigNotation.read? (some "conf/lint.YML") sampleFile := by
  have opens : sampleDisk "conf/lint.YML" = .ok (.file sampleText) := rfl
  have read : PartialSettings.ofYaml? sampleText = some sampleFile := by decide +kernel
  have suited : ConfigNotation.yaml.Suits "conf/lint.YML" :=
    ⟨"lint", "YML", by decide, by decide +kernel, by decide +kernel⟩
  exact .named ⟨sampleText, .yaml, opens, suited, read⟩

theorem sample_paths :
    (drawn sampleArguments sampleFile).schema = ["conf/../shapes.ttl", "/base.nt"] := by
  decide +kernel

theorem lint_file_leaves_no_checks :
    (drawn sampleArguments sampleFile).schema = ["conf/../shapes.ttl", "/base.nt"] ∧
      (drawn sampleArguments sampleFile).checks = ∅ ∧
      ofArguments sampleDisk ConfigNotation.read? sampleArguments = .error .noChecks := by
  obtain ⟨answer, checks⟩ :=
    settings_follow_precedence_or_fail sampleDisk ConfigNotation.read? sampleArguments
  have gives : Gives sampleDisk ConfigNotation.read? sampleArguments.config sampleFile :=
    sampleFile_gives
  have follows : Follows sampleArguments sampleFile (drawn sampleArguments sampleFile) :=
    (follows_iff gives.placed).2 rfl
  have empty := (checks _ _ follows).2 ⟨Or.inl rfl, rfl⟩
  have schema : (drawn sampleArguments sampleFile).schema ≠ [] := by
    rw [sample_paths]
    exact List.cons_ne_nil _ _
  have data : (drawn sampleArguments sampleFile).data ≠ [] := List.cons_ne_nil _ _
  exact ⟨sample_paths, empty, (answer _).2 (.judged gives follows (.noChecks schema data empty))⟩

end OntologyLint.Settings
