import OntologyLint.Proofs.Determined
import OntologyLint.Proofs.Files.Path
import OntologyLint.Settings.ConfigFile

set_option autoImplicit false

/-! What a configuration file gives. A file is read in the notation that its name ends in; otherwise
there is a first reason why it is refused. -/

namespace OntologyLint

namespace ConfigNotation

variable {written : ConfigNotation} {path ending : String}

def endings : ConfigNotation → List String
  | .yaml => ["yaml", "yml"]
  | .json => ["json"]

/-- The last name on the path ends in a dot and a word of the notation, in letters of either case, and
does not begin with that dot. -/
def Suits (written : ConfigNotation) (path : String) : Prop :=
  ∃ stem ending, stem ≠ "" ∧ ending.toLower ∈ written.endings ∧
    (FileTree.namesOf path).getLast? = some (stem ++ "." ++ ending)

theorem ofExtension?_eq_some_iff :
    ofExtension? ending = some written ↔ ending ∈ written.endings := by
  unfold ofExtension?
  cases written with
  | yaml =>
      by_cases yaml : ending = "yaml" ∨ ending = "yml"
      · simp [endings, yaml]
      · by_cases json : ending = "json" <;> simp [endings, yaml, json]
  | json =>
      by_cases yaml : ending = "yaml" ∨ ending = "yml"
      · rcases yaml with rfl | rfl <;> simp [endings]
      · simp [endings, yaml]

theorem toList_toLower (word : String) : word.toLower.toList = word.toList.map Char.toLower :=
  String.toList_map

theorem length_toLower (word : String) : word.toLower.length = word.length := String.length_map

theorem clean_of_mem_endings (listed : ending ∈ written.endings) :
    '.' ∉ ending.toList ∧ 2 < ending.length := by
  cases written with
  | yaml =>
      rcases List.mem_pair.1 listed with rfl | rfl
      · decide
      · decide
  | json =>
      rw [List.mem_singleton.1 listed]
      decide

theorem suits_iff :
    written.Suits path ↔
      ofExtension? ((Path.extension? path).getD "").toLower = some written := by
  rw [ofExtension?_eq_some_iff]
  constructor
  · rintro ⟨stem, ending, before, listed, last⟩
    obtain ⟨clean, long⟩ := clean_of_mem_endings listed
    have absent : '.' ∉ ending.toList := by
      intro dotted
      rw [toList_toLower] at clean
      exact clean (List.mem_map.2 ⟨'.', dotted, rfl⟩)
    have entry : stem ++ "." ++ ending ≠ ".." := by
      intro same
      have lengths := congrArg String.length same
      rw [length_toLower] at long
      rw [String.length_append, show "..".length = 2 from rfl] at lengths
      omega
    have named : Path.fileName? path = some (stem ++ "." ++ ending) := by
      rw [Path.fileName?_eq, last, Option.filter_some, if_pos (bne_iff_ne.2 entry)]
    rw [Path.extension?_eq_some_iff.2 ⟨absent, stem, before, named⟩]
    exact listed
  · intro listed
    cases found : Path.extension? path with
    | none =>
        have long := (clean_of_mem_endings listed).2
        rw [found, Option.getD_none, length_toLower] at long
        exact absurd long (by decide)
    | some ending =>
        rw [found] at listed
        obtain ⟨_absent, stem, before, named⟩ := Path.extension?_eq_some_iff.1 found
        rw [Path.fileName?_eq, Option.filter_eq_some_iff] at named
        exact ⟨stem, ending, before, listed, named.1⟩

end ConfigNotation

namespace PartialSettings

/-- The path leads to a file in a notation that its name tells, and its text has the settings. -/
def ReadFrom (disk : Disk) (read? : ConfigNotation → String → Option PartialSettings) (path : String)
    (settings : PartialSettings) : Prop :=
  ∃ text written, disk path = .ok (.file text) ∧ written.Suits path ∧
    read? written text = some settings

/-- What is wrong with a configuration file: the path leads nowhere, or else to no text, or else its
name ends in no word of a notation, or else the text is not in that notation. -/
inductive Refused (disk : Disk) (read? : ConfigNotation → String → Option PartialSettings)
    (path : String) : SettingsError → Prop
  | missing {failure : OpenFailure} (failed : disk path = .error failure) :
      Refused disk read? path (.missingFile path)
  | unreadable (opens : disk path = .ok .directory) :
      Refused disk read? path (.unreadableFile path)
  | unsupported {text : String} (opens : disk path = .ok (.file text))
      (unsuited : ∀ written : ConfigNotation, ¬written.Suits path) :
      Refused disk read? path (.unsupportedExtension ((Path.extension? path).getD "").toLower)
  | malformed {text : String} {written : ConfigNotation} (opens : disk path = .ok (.file text))
      (suited : written.Suits path) (unread : read? written text = none) :
      Refused disk read? path (.malformedFile written path)

variable {disk : Disk} {read? : ConfigNotation → String → Option PartialSettings} {path : String}
  {settings : PartialSettings} {error : SettingsError}

theorem ReadFrom.load_eq (given : ReadFrom disk read? path settings) :
    load disk read? path = .ok settings := by
  obtain ⟨text, written, opens, suited, read⟩ := given
  simp [load, Disk.hasEntry, Disk.read?, opens, ConfigNotation.suits_iff.1 suited, read]

theorem Refused.load_eq (refused : Refused disk read? path error) :
    load disk read? path = .error error := by
  cases refused with
  | missing failed => simp [load, Disk.hasEntry, failed]
  | unreadable opens => simp [load, Disk.hasEntry, Disk.read?, opens]
  | unsupported opens unsuited =>
      have unknown : ConfigNotation.ofExtension? ((Path.extension? path).getD "").toLower = none :=
        Option.eq_none_iff_forall_ne_some.2
          (fun written found => unsuited written (ConfigNotation.suits_iff.2 found))
      simp [load, Disk.hasEntry, Disk.read?, opens, unknown]
  | malformed opens suited unread =>
      simp [load, Disk.hasEntry, Disk.read?, opens, ConfigNotation.suits_iff.1 suited, unread]

theorem readFrom_or_refused (disk : Disk)
    (read? : ConfigNotation → String → Option PartialSettings) (path : String) :
    (∃ settings, ReadFrom disk read? path settings) ∨ ∃ error, Refused disk read? path error := by
  cases opens : disk path with
  | error failure => exact Or.inr ⟨_, .missing opens⟩
  | ok opened =>
      cases opened with
      | directory => exact Or.inr ⟨_, .unreadable opens⟩
      | file text =>
          by_cases known : ∃ written : ConfigNotation, written.Suits path
          · obtain ⟨written, suited⟩ := known
            cases read : read? written text with
            | none => exact Or.inr ⟨_, .malformed opens suited read⟩
            | some settings => exact Or.inl ⟨settings, text, written, opens, suited, read⟩
          · exact Or.inr ⟨_, .unsupported opens (not_exists.1 known)⟩

end PartialSettings

end OntologyLint
