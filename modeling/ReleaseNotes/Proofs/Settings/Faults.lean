import ReleaseNotes.Proofs.Files.Reading
import ReleaseNotes.Proofs.Json.Limits
import ReleaseNotes.Proofs.Number.Integers
import ReleaseNotes.Proofs.Settings.Precedence

namespace ReleaseNotes.Settings

/-!
Which faults of a configuration are reported as configuration errors. Four are not: each of them
ends the run as an unexpected one.
-/

/-- Loading gives settings or a configuration error, and nothing else. -/
def Request.ReportsFaults (request : Request) (tree : FileTree) : Prop :=
  (∃ settings, request.load tree = .ok settings) ∨
    ∃ cause, request.load tree = .error (.config cause)

/-- What the handler around reading the file leaves out. -/
inductive FileEscapes (tree : FileTree) (path : Path) : LoadError → Prop
  | tooLong :
      path.check = .ok () → tree.find path = .error .nameTooLong →
      FileEscapes tree path (.file (.refused .nameTooLong path))
  | undecodable {content : Bytes} {failure : Utf8.Failure} :
      tree.readBytes path = .ok content → Utf8.decode content = .error failure →
      FileEscapes tree path (.file (.undecodable failure))
  | beyondReader {document : Text} {failure : Json.Failure} :
      tree.readText path = .ok document → Json.read document = .error failure →
      Json.Exceeds Json.depthLimit document failure →
      FileEscapes tree path (.document failure)

/-- What loading leaves out: of a readable file only an integer that has no floating-point number,
and only if every key that is checked before it holds what it should. -/
inductive Request.Escapes (request : Request) (tree : FileTree) : LoadError → Prop
  | file {error : LoadError} :
      FileEscapes tree (configPath (request.workspaceIn tree)) error →
      request.Escapes tree error
  | timeoutTooLarge {members : List (Text × Json)} {value : Int} :
      FileSays tree (request.workspaceIn tree) members →
      (∀ key ∈ Key.texts,
        IsTextual (winner? members request.environment request.overrides key)) →
      winner? members request.environment request.overrides .requestTimeout =
        some (.int value) →
      0 < value → Double.overflowBound ≤ value.natAbs →
      request.Escapes tree .timeoutTooLarge

/-! Reading the file. -/

section File

variable {tree : FileTree} {workspace : Path} {error : LoadError}

theorem documentFields_eq_error_iff {document : Text} (hcause : ∀ cause, error ≠ .config cause) :
    documentFields document = .error error ↔
      ∃ failure, Json.read document = .error failure ∧
        Json.Exceeds Json.depthLimit document failure ∧ error = .document failure := by
  unfold documentFields
  constructor
  · intro h
    split at h
    · cases h
      exact absurd rfl (hcause _)
    · rename_i failure hmalformed hread
      cases h
      cases Json.blames_of_read hread with
      | grammar reason position => exact absurd rfl (hmalformed reason position)
      | limit hexceeds => exact ⟨failure, hread, hexceeds, rfl⟩
    · cases h
    · cases h
      exact absurd rfl (hcause _)
  · rintro ⟨failure, hread, hexceeds, rfl⟩
    cases hexceeds with
    | digits _ _ _ => simp only [hread]
    | depth container _ => simp only [hread]

theorem fileFields_of_fileEscapes (h : FileEscapes tree (configPath workspace) error) :
    fileFields tree workspace = .error error := by
  unfold fileFields
  cases h with
  | tooLong hcheck hfind =>
      simp only [FileTree.exists?_eq_error_iff.mpr ⟨hcheck, hfind, rfl⟩]
  | undecodable hbytes hdecode =>
      simp only [FileTree.exists?_of_readBytes hbytes, FileTree.readText, hbytes, hdecode]
  | beyondReader hread hfailure hexceeds =>
      have hdocument := (documentFields_eq_error_iff (by simp)).mpr ⟨_, hfailure, hexceeds, rfl⟩
      simp only [FileTree.exists?_of_readText hread, hread, hdocument, Except.map]

theorem fileEscapes_of_fileFields (h : fileFields tree workspace = .error error)
    (hcause : ∀ cause, error ≠ .config cause) :
    FileEscapes tree (configPath workspace) error := by
  unfold fileFields at h
  split at h
  · rename_i fault hexists
    cases h
    obtain ⟨hcheck, hfind, rfl⟩ := FileTree.exists?_eq_error_iff.mp hexists
    exact .tooLong hcheck hfind
  · cases h
  · rename_i hthere
    split at h
    · cases h
      exact absurd rfl (hcause _)
    · rename_i fault hrefused hread
      cases h
      obtain rfl | ⟨bytes, failure, hbytes, hdecode, rfl⟩ :=
        FileTree.fault_of_readText hthere hread
      · exact absurd rfl (hrefused _ _)
      · exact .undecodable hbytes hdecode
    · rename_i document hread
      cases hdocument : documentFields document with
      | ok fields =>
          rw [hdocument] at h
          cases h
      | error found =>
          rw [hdocument] at h
          cases h
          obtain ⟨failure, hfailure, hexceeds, rfl⟩ :=
            (documentFields_eq_error_iff hcause).mp hdocument
          exact .beyondReader hread hfailure hexceeds

end File

/-! Settling the keys. -/

namespace Sources

variable {sources : Sources} {workspace : Path} {error : LoadError}

/-- After the checks only rounding an integer can fail. -/
theorem timeout?_eq_none_iff :
    sources.checkTimeout = .ok () ∧ sources.timeout? = none ↔
      ∃ value, sources.value? .requestTimeout = some (.int value) ∧ 0 < value ∧
        Double.overflowBound ≤ value.natAbs := by
  unfold checkTimeout timeout?
  constructor
  · rintro ⟨hcheck, htimeout⟩
    split at hcheck
    · rename_i hnone
      rw [hnone] at htimeout
      cases htimeout
    · rename_i value hvalue
      rw [hvalue] at htimeout
      refine ⟨value, value?_of_given hvalue, ?_, Double.ofInt?_eq_none_iff.mp htimeout⟩
      by_contra hle
      rw [if_pos (by omega)] at hcheck
      cases hcheck
    · rename_i value hvalue
      rw [hvalue] at htimeout
      cases htimeout
    · cases hcheck
  · rintro ⟨value, hvalue, hpos, hlarge⟩
    rw [given?_of_value hvalue rfl]
    exact ⟨if_neg (by omega), Double.ofInt?_eq_none_iff.mpr hlarge⟩

theorem settings_eq_error_iff (hcause : ∀ cause, error ≠ .config cause) :
    sources.settings workspace = .error error ↔
      (∀ key ∈ Key.texts, IsTextual (sources.value? key)) ∧
        (∃ value, sources.value? .requestTimeout = some (.int value) ∧ 0 < value ∧
          Double.overflowBound ≤ value.natAbs) ∧
        error = .timeoutTooLarge := by
  rw [← checkTexts_eq_ok_iff, ← timeout?_eq_none_iff, and_assoc, ← and_assoc, ← check_eq_ok_iff]
  unfold Sources.settings
  constructor
  · intro h
    split at h
    · cases h
      exact absurd rfl (hcause _)
    · rename_i hcheck htimeout
      cases h
      exact ⟨hcheck, htimeout, rfl⟩
    · cases h
  · rintro ⟨hcheck, htimeout, rfl⟩
    simp only [hcheck, htimeout]

end Sources

/-! Loading. -/

namespace Request

variable {request : Request} {tree : FileTree} {error : LoadError}

theorem escapes_iff :
    request.Escapes tree error ↔
      request.load tree = .error error ∧ ∀ cause, error ≠ .config cause := by
  constructor
  · intro h
    cases h with
    | file hfile =>
        refine ⟨?_, by cases hfile <;> simp⟩
        simp only [load, fileFields_of_fileEscapes hfile]
    | timeoutTooLarge hfile htexts hvalue hpos hlarge =>
        obtain ⟨sources, hload, hvalues⟩ := load_of_fileSays hfile
        rw [← hvalues] at htexts hvalue
        refine ⟨?_, by simp⟩
        rw [hload]
        exact (Sources.settings_eq_error_iff (by simp)).mpr
          ⟨htexts, ⟨_, hvalue, hpos, hlarge⟩, rfl⟩
  · rintro ⟨h, hcause⟩
    cases hfields : fileFields tree (request.workspaceIn tree) with
    | error found =>
        simp only [load, hfields] at h
        cases h
        exact .file (fileEscapes_of_fileFields hfields hcause)
    | ok fields =>
        obtain ⟨members, hfile⟩ := exists_fileSays_iff.mpr ⟨fields, hfields⟩
        obtain ⟨sources, hload, hvalues⟩ := load_of_fileSays hfile
        rw [hload, Sources.settings_eq_error_iff hcause, hvalues] at h
        obtain ⟨htexts, ⟨value, hvalue, hpos, hlarge⟩, rfl⟩ := h
        exact .timeoutTooLarge hfile htexts hvalue hpos hlarge

end Request

/-- Every fault is reported as a configuration error unless it is one of those that escape, and these
are just the other errors that loading can end with. -/
theorem reportsFaults_iff (request : Request) (tree : FileTree) :
    (request.ReportsFaults tree ↔ ¬ ∃ error, request.Escapes tree error) ∧
      ∀ error, request.Escapes tree error ↔
        request.load tree = .error error ∧ ∀ cause, error ≠ .config cause := by
  refine ⟨?_, fun error => Request.escapes_iff⟩
  unfold Request.ReportsFaults
  constructor
  · rintro (⟨settings, hload⟩ | ⟨cause, hload⟩) ⟨error, hescapes⟩
    · rw [(Request.escapes_iff.mp hescapes).1] at hload
      cases hload
    · obtain ⟨hother, hcause⟩ := Request.escapes_iff.mp hescapes
      rw [hother] at hload
      cases hload
      exact hcause cause rfl
  · intro hnone
    cases hload : request.load tree with
    | ok settings => exact .inl ⟨settings, rfl⟩
    | error error =>
        by_contra hreported
        refine hnone ⟨error, Request.escapes_iff.mpr ⟨hload, ?_⟩⟩
        rintro cause rfl
        exact hreported (.inr ⟨cause, rfl⟩)

/-- A byte that begins no character, in the configuration file of the working directory. -/
theorem not_reportsFaults_undecodable :
    let tree : FileTree := ⟨[([fileName], .file [0xff])], [], by decide⟩
    let request : Request := ⟨none, [], []⟩
    request.load tree = .error (.file (.undecodable ⟨0, [0xff], .invalidStart⟩)) ∧
      ¬ request.ReportsFaults tree := by
  intro tree request
  have hload : request.load tree =
      .error (.file (.undecodable ⟨0, [0xff], .invalidStart⟩)) := rfl
  refine ⟨hload, ?_⟩
  intro hreports
  obtain ⟨settings, hloaded⟩ | ⟨cause, hreported⟩ := hreports
  · rw [hload] at hloaded
    cases hloaded
  · rw [hload] at hreported
    cases hreported

end ReleaseNotes.Settings
