import ReleaseNotes.Proofs.Json.Members
import ReleaseNotes.Settings.Load

namespace ReleaseNotes.Settings

/-!
Every key is decided on its own: what the strongest source says about it counts, what the weaker
ones say is as good as not said.
-/

/-- The members of the configuration file as they are written. A file that is not there has none. -/
inductive FileSays (tree : FileTree) (workspace : Path) : List (Text × Json) → Prop
  | missing :
      tree.exists? (configPath workspace) = .ok false → FileSays tree workspace []
  | written {document : Text} {members : List (Text × Json)} :
      tree.exists? (configPath workspace) = .ok true →
      tree.readText (configPath workspace) = .ok document →
      Json.IsObjectOf document members → FileSays tree workspace members

/-- Of members with one name the last counts; of the variables only one that is not empty. -/
def beneathOverrides? (members : List (Text × Json)) (environment : Environment) (key : Key) :
    Option Json :=
  match key.environmentName?.bind fun name => environment.lookup name with
  | none | some [] => members.reverse.lookup key.name
  | some text => some (.string text)

/-- What counts for a key. Null overrides nothing. -/
def winner? (members : List (Text × Json)) (environment : Environment)
    (overrides : List (Text × Json)) (key : Key) : Option Json :=
  match overrides.lookup key.name with
  | none | some .null => beneathOverrides? members environment key
  | some value => some value

def IsUnset (said : Option Json) : Prop :=
  said = none ∨ said = some .null

def IsBlank (said : Option Json) : Prop :=
  IsUnset said ∨ said = some (.string [])

def IsTextual (said : Option Json) : Prop :=
  IsUnset said ∨ ∃ text, said = some (.string text)

/-- An absolute path is kept, a relative one goes on from the workspace. -/
structure IsPlaced (workspace : Path) (text : Text) (path : Path) : Prop where
  absolute : text.head? = some (Letter.char '/') → path = .ofText text
  relative : text.head? ≠ some (Letter.char '/') →
    path = ⟨workspace.slashes, workspace.names ++ (Path.ofText text).names⟩

/-- Each setting follows from what is said about its own key and from nothing else. -/
structure Normalises (workspace : Path) (said : Key → Option Json) (settings : Settings) :
    Prop where
  place : settings.workspace = workspace
  commitTypes :
    IsUnset (said .commitTypes) ∧ settings.commitTypes = defaultCommitTypes ∨
      said .commitTypes = some (.string settings.commitTypes)
  templatePath :
    IsBlank (said .templatePath) ∧ settings.templatePath = none ∨
      ∃ text path, said .templatePath = some (.string text) ∧ text ≠ [] ∧
        settings.templatePath = some path ∧ IsPlaced workspace text path
  changelogPath :
    IsBlank (said .changelogPath) ∧
        IsPlaced workspace defaultChangelogPath settings.changelogPath ∨
      ∃ text, said .changelogPath = some (.string text) ∧ text ≠ [] ∧
        IsPlaced workspace text settings.changelogPath
  repository :
    IsUnset (said .repository) ∧ settings.repository = none ∨
      ∃ text, said .repository = some (.string text) ∧ settings.repository = some text
  token :
    IsUnset (said .token) ∧ settings.token = .null ∨ said .token = some settings.token
  apiUrl :
    IsBlank (said .apiUrl) ∧ settings.apiUrl = defaultApiUrl ∨
      said .apiUrl = some (.string settings.apiUrl) ∧ settings.apiUrl ≠ []
  timeout :
    IsUnset (said .requestTimeout) ∧ settings.timeout = defaultTimeout ∨
      (∃ value, said .requestTimeout = some (.int value) ∧ 0 < value ∧
        Double.ofInt? value = some settings.timeout) ∨
      said .requestTimeout = some (.float settings.timeout) ∧
        settings.timeout.isAtMostZero = false

/-! The file. -/

theorem fileFields_of_fileSays {tree : FileTree} {workspace : Path} {members : List (Text × Json)}
    (h : FileSays tree workspace members) :
    ∃ fields, fileFields tree workspace = .ok fields ∧
      ∀ key, (fields.getD []).lookup key = members.reverse.lookup key := by
  cases h with
  | missing hmissing => exact ⟨none, by simp only [fileFields, hmissing], fun _ => rfl⟩
  | written hthere hread hobject =>
      refine ⟨some _, ?_, Json.field?_ofFields members⟩
      simp only [fileFields, hthere, hread, documentFields, Json.read_of_isObjectOf hobject,
        Json.ofFields, Except.map]

theorem exists_fileSays_iff {tree : FileTree} {workspace : Path} :
    (∃ members, FileSays tree workspace members) ↔
      ∃ fields, fileFields tree workspace = .ok fields := by
  constructor
  · rintro ⟨members, h⟩
    obtain ⟨fields, hfields, -⟩ := fileFields_of_fileSays h
    exact ⟨fields, hfields⟩
  · rintro ⟨fields, h⟩
    unfold fileFields at h
    split at h
    · cases h
    · rename_i hmissing
      exact ⟨[], .missing hmissing⟩
    · rename_i hthere
      split at h
      · cases h
      · cases h
      · rename_i document hread
        unfold documentFields at h
        split at h
        · cases h
        · cases h
        · rename_i found hobject
          obtain ⟨members, hmembers⟩ := Json.exists_isObjectOf hobject
          exact ⟨members, .written hthere hread hmembers⟩
        · cases h

namespace Sources

variable {sources other : Sources} {key : Key} {workspace : Path}

theorem value?_eq_winner? {request : Request} {fields : Option (List (Text × Json))}
    {members : List (Text × Json)}
    (hfields : ∀ key, (fields.getD []).lookup key = members.reverse.lookup key) (key : Key) :
    (request.sources fields).value? key =
      winner? members request.environment request.overrides key := by
  have hbeneath :
      ((request.sources fields).environmental? key <|>
        (request.sources fields).file.lookup key.name) =
          beneathOverrides? members request.environment key := by
    unfold environmental? beneathOverrides?
    cases key.environmentName? with
    | none => exact hfields key.name
    | some name =>
        simp only [Request.sources, Environment.value?, Option.bind_some]
        cases request.environment.lookup name with
        | none => exact hfields key.name
        | some text =>
            cases text with
            | nil => exact hfields key.name
            | cons c text => rfl
  unfold value? overriding? winner?
  rw [hbeneath]
  simp only [Request.sources]
  cases request.overrides.lookup key.name with
  | none => rfl
  | some value => cases value <;> rfl

/-! Nothing else of the sources reaches the settings. -/

section Congruence

variable (h : ∀ key, sources.value? key = other.value? key)

include h

theorem given?_congr (key : Key) : sources.given? key = other.given? key := by
  rw [given?, given?, h]

theorem text?_congr (key : Key) : sources.text? key = other.text? key := by
  rw [text?, text?, given?_congr h]

theorem textOf_congr (key : Key) : sources.textOf key = other.textOf key := by
  rw [textOf, textOf, given?_congr h]

theorem someTextOf_congr (key : Key) : sources.someTextOf key = other.someTextOf key := by
  rw [someTextOf, someTextOf, textOf_congr h]

theorem checkTexts_congr (keys : List Key) : sources.checkTexts keys = other.checkTexts keys := by
  induction keys with
  | nil => rfl
  | cons key keys ih => rw [checkTexts, checkTexts, text?_congr h, ih]

theorem check_congr : sources.check = other.check := by
  rw [check, check, checkTexts_congr h, checkTimeout, checkTimeout, given?_congr h]

theorem settings_congr (workspace : Path) :
    sources.settings workspace = other.settings workspace := by
  simp only [settings, check_congr h, timeout?, textOf_congr h, someTextOf_congr h, given?_congr h]

end Congruence

/-! What a single key gives. -/

theorem given?_eq_none_iff : sources.given? key = none ↔ IsUnset (sources.value? key) := by
  unfold given? IsUnset
  cases sources.value? key with
  | none => simp
  | some value => cases value <;> simp [Json.isNull]

theorem given?_of_value {value : Json} (h : sources.value? key = some value)
    (hnull : value.isNull = false) : sources.given? key = some value := by
  rw [given?, h, Option.filter_some, hnull]
  rfl

theorem value?_of_given {value : Json} (h : sources.given? key = some value) :
    sources.value? key = some value := by
  exact (Option.filter_eq_some_iff.mp h).1

theorem textOf_of_unset (h : IsUnset (sources.value? key)) : sources.textOf key = none := by
  rw [textOf, given?_eq_none_iff.mpr h, Option.bind_none]

theorem textOf_of_text {text : Text} (h : sources.value? key = some (.string text)) :
    sources.textOf key = some text := by
  rw [textOf, given?_of_value h rfl, Option.bind_some, Json.text?]

theorem someTextOf_of_blank (h : IsBlank (sources.value? key)) :
    sources.someTextOf key = none := by
  obtain hunset | hempty := h
  · rw [someTextOf, textOf_of_unset hunset, Option.filter_none]
  · rw [someTextOf, textOf_of_text hempty]
    rfl

theorem someTextOf_of_text {text : Text} (h : sources.value? key = some (.string text))
    (hsome : text ≠ []) : sources.someTextOf key = some text := by
  rw [someTextOf, textOf_of_text h, Option.filter_some, if_pos (by simpa using hsome)]

theorem exists_text?_iff :
    (∃ found, sources.text? key = .ok found) ↔ IsTextual (sources.value? key) := by
  unfold text?
  constructor
  · rintro ⟨found, h⟩
    split at h
    · rename_i hnone
      exact .inl (given?_eq_none_iff.mp hnone)
    · rename_i text htext
      exact .inr ⟨text, value?_of_given htext⟩
    · cases h
  · rintro (hunset | ⟨text, htext⟩)
    · exact ⟨none, by rw [given?_eq_none_iff.mpr hunset]⟩
    · exact ⟨some text, by rw [given?_of_value htext rfl]⟩

theorem checkTexts_eq_ok_iff {keys : List Key} :
    sources.checkTexts keys = .ok () ↔ ∀ key ∈ keys, IsTextual (sources.value? key) := by
  induction keys with
  | nil => simp [checkTexts]
  | cons key keys ih =>
      rw [List.forall_mem_cons, ← ih, ← exists_text?_iff, checkTexts]
      cases sources.text? key with
      | error error => simp
      | ok found => simp

theorem timeout_eq_ok_iff {timeout : Double} :
    sources.checkTimeout = .ok () ∧ sources.timeout? = some timeout ↔
      IsUnset (sources.value? .requestTimeout) ∧ timeout = defaultTimeout ∨
        (∃ value, sources.value? .requestTimeout = some (.int value) ∧ 0 < value ∧
          Double.ofInt? value = some timeout) ∨
        sources.value? .requestTimeout = some (.float timeout) ∧
          timeout.isAtMostZero = false := by
  unfold checkTimeout timeout?
  constructor
  · rintro ⟨hcheck, htimeout⟩
    split at hcheck
    · rename_i hnone
      rw [hnone] at htimeout
      cases htimeout
      exact .inl ⟨given?_eq_none_iff.mp hnone, rfl⟩
    · rename_i value hvalue
      rw [hvalue] at htimeout
      refine .inr (.inl ⟨value, value?_of_given hvalue, ?_, htimeout⟩)
      by_contra hle
      rw [if_pos (by omega)] at hcheck
      cases hcheck
    · rename_i value hvalue
      rw [hvalue] at htimeout
      cases htimeout
      refine .inr (.inr ⟨value?_of_given hvalue, ?_⟩)
      by_contra hzero
      rw [if_pos (by simpa using hzero)] at hcheck
      cases hcheck
    · cases hcheck
  · rintro (⟨hunset, rfl⟩ | ⟨value, hvalue, hpos, hround⟩ | ⟨hvalue, hpos⟩)
    · rw [given?_eq_none_iff.mpr hunset]
      exact ⟨rfl, rfl⟩
    · rw [given?_of_value hvalue rfl]
      exact ⟨if_neg (by omega), hround⟩
    · rw [given?_of_value hvalue rfl]
      exact ⟨if_neg (by simp [hpos]), rfl⟩

end Sources

theorem isPlaced_iff {workspace path : Path} {text : Text} :
    IsPlaced workspace text path ↔ path = workspace.join (.ofText text) := by
  unfold Path.join
  by_cases h : text.head? = some (Letter.char '/')
  · rw [if_pos (Path.isAbsolute_ofText.mpr h)]
    exact ⟨fun hplaced => hplaced.absolute h, fun heq => ⟨fun _ => heq, fun hno => absurd h hno⟩⟩
  · rw [if_neg (fun habsolute => h (Path.isAbsolute_ofText.mp habsolute))]
    exact ⟨fun hplaced => hplaced.relative h, fun heq => ⟨fun hyes => absurd hyes h, fun _ => heq⟩⟩

theorem IsTextual.isBlank_or {said : Option Json} (h : IsTextual said) :
    IsBlank said ∨ ∃ text, said = some (.string text) ∧ text ≠ [] := by
  obtain hunset | ⟨text, htext⟩ := h
  · exact .inl (.inl hunset)
  · by_cases hempty : text = []
    · exact .inl (.inr (by rw [htext, hempty]))
    · exact .inr ⟨text, htext, hempty⟩

theorem IsBlank.isTextual {said : Option Json} (h : IsBlank said) : IsTextual said := by
  obtain hunset | hempty := h
  · exact .inl hunset
  · exact .inr ⟨[], hempty⟩

theorem Normalises.isTextual {workspace : Path} {said : Key → Option Json} {settings : Settings}
    (h : Normalises workspace said settings) : ∀ key ∈ Key.texts, IsTextual (said key) := by
  intro key hkey
  cases key with
  | commitTypes => exact h.commitTypes.imp And.left fun htext => ⟨_, htext⟩
  | templatePath =>
      obtain ⟨hblank, -⟩ | ⟨text, path, htext, -⟩ := h.templatePath
      · exact hblank.isTextual
      · exact .inr ⟨text, htext⟩
  | changelogPath =>
      obtain ⟨hblank, -⟩ | ⟨text, htext, -⟩ := h.changelogPath
      · exact hblank.isTextual
      · exact .inr ⟨text, htext⟩
  | repository => exact h.repository.imp And.left fun ⟨text, htext, _⟩ => ⟨text, htext⟩
  | apiUrl =>
      obtain ⟨hblank, -⟩ | ⟨htext, -⟩ := h.apiUrl
      · exact hblank.isTextual
      · exact .inr ⟨_, htext⟩
  | token => exact absurd hkey (by decide)
  | requestTimeout => exact absurd hkey (by decide)

namespace Sources

variable {sources : Sources} {workspace : Path} {settings : Settings}

theorem check_eq_ok_iff :
    sources.check = .ok () ↔
      sources.checkTexts Key.texts = .ok () ∧ sources.checkTimeout = .ok () := by
  unfold check
  cases sources.checkTexts Key.texts with
  | error error => simp
  | ok found => simp

theorem normalises_of_settings (h : sources.settings workspace = .ok settings) :
    Normalises workspace sources.value? settings := by
  unfold Sources.settings at h
  split at h
  · cases h
  · cases h
  · rename_i found timeout hcheck htimeout
    obtain ⟨htexts, htimely⟩ := check_eq_ok_iff.mp hcheck
    have hsaid := checkTexts_eq_ok_iff.mp htexts
    cases h
    refine ⟨rfl, ?commitTypes, ?templatePath, ?changelogPath, ?repository, ?token, ?apiUrl,
      timeout_eq_ok_iff.mp ⟨htimely, htimeout⟩⟩
    case commitTypes =>
      obtain hunset | ⟨text, htext⟩ := hsaid .commitTypes (by decide)
      · exact .inl ⟨hunset, by rw [textOf_of_unset hunset]; rfl⟩
      · exact .inr (by rw [htext, textOf_of_text htext]; rfl)
    case templatePath =>
      obtain hblank | ⟨text, htext, hsome⟩ := (hsaid .templatePath (by decide)).isBlank_or
      · exact .inl ⟨hblank, by rw [someTextOf_of_blank hblank]; rfl⟩
      · exact .inr ⟨text, _, htext, hsome, by rw [someTextOf_of_text htext hsome]; rfl,
          isPlaced_iff.mpr rfl⟩
    case changelogPath =>
      obtain hblank | ⟨text, htext, hsome⟩ := (hsaid .changelogPath (by decide)).isBlank_or
      · exact .inl ⟨hblank, isPlaced_iff.mpr (by rw [someTextOf_of_blank hblank]; rfl)⟩
      · exact .inr ⟨text, htext, hsome,
          isPlaced_iff.mpr (by rw [someTextOf_of_text htext hsome]; rfl)⟩
    case repository =>
      obtain hunset | ⟨text, htext⟩ := hsaid .repository (by decide)
      · exact .inl ⟨hunset, textOf_of_unset hunset⟩
      · exact .inr ⟨text, htext, textOf_of_text htext⟩
    case token =>
      cases hgiven : sources.given? .token with
      | none => exact .inl ⟨given?_eq_none_iff.mp hgiven, rfl⟩
      | some token => exact .inr (value?_of_given hgiven)
    case apiUrl =>
      obtain hblank | ⟨text, htext, hsome⟩ := (hsaid .apiUrl (by decide)).isBlank_or
      · exact .inl ⟨hblank, by rw [someTextOf_of_blank hblank]; rfl⟩
      · exact .inr (by rw [htext, someTextOf_of_text htext hsome]; exact ⟨rfl, hsome⟩)

theorem settings_of_normalises (h : Normalises workspace sources.value? settings) :
    sources.settings workspace = .ok settings := by
  obtain ⟨htimely, htimeout⟩ := timeout_eq_ok_iff.mpr h.timeout
  have hcheck := check_eq_ok_iff.mpr
    ⟨checkTexts_eq_ok_iff.mpr h.isTextual, htimely⟩
  have hcommitTypes : (sources.textOf .commitTypes).getD defaultCommitTypes =
      settings.commitTypes := by
    obtain ⟨hunset, hdefault⟩ | htext := h.commitTypes
    · rw [textOf_of_unset hunset, hdefault]
      rfl
    · rw [textOf_of_text htext]
      rfl
  have htemplatePath : (sources.someTextOf .templatePath).map
      (fun text => workspace.join (.ofText text)) = settings.templatePath := by
    obtain ⟨hblank, hnone⟩ | ⟨text, path, htext, hsome, hpath, hplaced⟩ := h.templatePath
    · rw [someTextOf_of_blank hblank, hnone]
      rfl
    · rw [someTextOf_of_text htext hsome, hpath, isPlaced_iff.mp hplaced]
      rfl
  have hchangelogPath : workspace.join
      (.ofText ((sources.someTextOf .changelogPath).getD defaultChangelogPath)) =
        settings.changelogPath := by
    obtain ⟨hblank, hplaced⟩ | ⟨text, htext, hsome, hplaced⟩ := h.changelogPath
    · rw [someTextOf_of_blank hblank, isPlaced_iff.mp hplaced]
      rfl
    · rw [someTextOf_of_text htext hsome, isPlaced_iff.mp hplaced]
      rfl
  have hrepository : sources.textOf .repository = settings.repository := by
    obtain ⟨hunset, hnone⟩ | ⟨text, htext, hsome⟩ := h.repository
    · rw [textOf_of_unset hunset, hnone]
    · rw [textOf_of_text htext, hsome]
  have htoken : (sources.given? .token).getD .null = settings.token := by
    obtain ⟨hunset, hnull⟩ | hsaid := h.token
    · rw [given?_eq_none_iff.mpr hunset, hnull]
      rfl
    · rw [given?, hsaid]
      cases settings.token <;> rfl
  have hapiUrl : (sources.someTextOf .apiUrl).getD defaultApiUrl = settings.apiUrl := by
    obtain ⟨hblank, hdefault⟩ | ⟨htext, hsome⟩ := h.apiUrl
    · rw [someTextOf_of_blank hblank, hdefault]
      rfl
    · rw [someTextOf_of_text htext hsome]
      rfl
  unfold Sources.settings
  simp only [hcheck, htimeout, hcommitTypes, htemplatePath, hchangelogPath, hrepository, htoken,
    hapiUrl]
  rw [← h.place]

theorem settings_eq_ok_iff :
    sources.settings workspace = .ok settings ↔ Normalises workspace sources.value? settings :=
  ⟨normalises_of_settings, settings_of_normalises⟩

end Sources

theorem Request.load_of_fileSays {request : Request} {tree : FileTree}
    {members : List (Text × Json)} (h : FileSays tree (request.workspaceIn tree) members) :
    ∃ sources : Sources, request.load tree = sources.settings (request.workspaceIn tree) ∧
      sources.value? = winner? members request.environment request.overrides := by
  obtain ⟨fields, hfields, hlookup⟩ := fileFields_of_fileSays h
  refine ⟨request.sources fields, ?_, funext (Sources.value?_eq_winner? hlookup)⟩
  simp only [Request.load, hfields]

theorem Request.load_eq_ok_iff {request : Request} {tree : FileTree} {settings : Settings}
    {members : List (Text × Json)} (h : FileSays tree (request.workspaceIn tree) members) :
    request.load tree = .ok settings ↔
      Normalises (request.workspaceIn tree)
        (winner? members request.environment request.overrides) settings := by
  obtain ⟨sources, hload, hvalues⟩ := Request.load_of_fileSays h
  rw [hload, Sources.settings_eq_ok_iff, hvalues]

/-- For one workspace the configuration depends only on what counts for each key. It is found
exactly if it is what these values give, each one by itself. -/
theorem load_eq_of_winners {request other : Request} {tree otherTree : FileTree}
    {workspace : Path} {members otherMembers : List (Text × Json)}
    (hworkspace : request.workspaceIn tree = workspace)
    (hotherWorkspace : other.workspaceIn otherTree = workspace)
    (hfile : FileSays tree workspace members)
    (hotherFile : FileSays otherTree workspace otherMembers)
    (hwinners : ∀ key, winner? members request.environment request.overrides key =
      winner? otherMembers other.environment other.overrides key) :
    request.load tree = other.load otherTree ∧
      ∀ settings, request.load tree = .ok settings ↔
        Normalises workspace (winner? members request.environment request.overrides) settings := by
  subst hworkspace
  obtain ⟨sources, hload, hvalues⟩ := Request.load_of_fileSays hfile
  rw [← hotherWorkspace] at hotherFile
  obtain ⟨otherSources, hotherLoad, hotherValues⟩ := Request.load_of_fileSays hotherFile
  rw [hotherWorkspace] at hotherLoad
  constructor
  · rw [hload, hotherLoad]
    refine Sources.settings_congr (fun key => ?_) _
    rw [hvalues, hotherValues, hwinners]
  · intro settings
    rw [hload, Sources.settings_eq_ok_iff, hvalues]

/-- A file that says a key twice, and one whose wrongly typed value the environment overrides. -/
theorem load_eq_of_winners_masked :
    let holding (document : String) : FileTree :=
      ⟨[([fileName], .file (Utf8.encodeChars document.toList))], [], by decide⟩
    let tree := holding "\x7b\"commit_types\":5,\"commit_types\":\"feat:F\"\x7d"
    let otherTree := holding "\x7b\"commit_types\":5\x7d"
    let request : Request := ⟨none, [], []⟩
    let other : Request := ⟨none, [("CHANGELOG_COMMIT_TYPES".text, "feat:F".text)], []⟩
    request.load tree = other.load otherTree ∧
      ∃ settings, request.load tree = .ok settings ∧ settings.commitTypes = "feat:F".text := by
  intro holding tree otherTree request other
  have hfirst : Json.ReadsMember (Json.depthLimit - 1) 84
      ⟨1, "\"commit_types\":5,\"commit_types\":\"feat:F\"\x7d".text⟩
      ("commit_types".text, .int 5) ⟨17, ",\"commit_types\":\"feat:F\"\x7d".text⟩ :=
    ⟨_, _, ⟨15, ":5,\"commit_types\":\"feat:F\"\x7d".text⟩, rfl, rfl, rfl, rfl⟩
  have hsecond : Json.ReadsMember (Json.depthLimit - 1) 83 ⟨18, "\"commit_types\":\"feat:F\"\x7d".text⟩
      ("commit_types".text, .string "feat:F".text) ⟨41, "\x7d".text⟩ :=
    ⟨_, _, ⟨32, ":\"feat:F\"\x7d".text⟩, rfl, rfl, rfl, rfl⟩
  have hobject : Json.IsObjectOf "\x7b\"commit_types\":5,\"commit_types\":\"feat:F\"\x7d".text
      [("commit_types".text, .int 5), ("commit_types".text, .string "feat:F".text)] :=
    .members ⟨by decide, _, rfl, rfl⟩ (.more hfirst rfl (.last hsecond rfl)) rfl
  have honly : Json.ReadsMember (Json.depthLimit - 1) 36 ⟨1, "\"commit_types\":5\x7d".text⟩
      ("commit_types".text, .int 5) ⟨17, "\x7d".text⟩ :=
    ⟨_, _, ⟨15, ":5\x7d".text⟩, rfl, rfl, rfl, rfl⟩
  have hotherObject : Json.IsObjectOf "\x7b\"commit_types\":5\x7d".text
      [("commit_types".text, .int 5)] :=
    .members ⟨by decide, _, rfl, rfl⟩ (.last honly rfl) rfl
  have hreads (document : String)
      (hplain : Text.foldNewlines document.text = document.text) :
      (holding document).readText (configPath ⟨1, []⟩) = .ok document.text := by
    have hbytes : (holding document).readBytes (configPath ⟨1, []⟩) =
        .ok (Utf8.encodeChars document.toList) := rfl
    rw [FileTree.readText, hbytes]
    simp only [Utf8.decode_encodeChars]
    exact congrArg Except.ok hplain
  have hfile : FileSays tree ⟨1, []⟩ _ := .written rfl (hreads _ rfl) hobject
  have hotherFile : FileSays otherTree ⟨1, []⟩ _ := .written rfl (hreads _ rfl) hotherObject
  have hwinners (key : Key) :
      winner? [("commit_types".text, .int 5), ("commit_types".text, .string "feat:F".text)]
          request.environment request.overrides key =
        winner? [("commit_types".text, .int 5)] other.environment other.overrides key := by
    cases key <;> rfl
  obtain ⟨hsame, hload⟩ :=
    @load_eq_of_winners request other tree otherTree _ _ _ rfl rfl hfile hotherFile hwinners
  refine ⟨hsame, ⟨⟨1, []⟩, "feat:F".text, none, ⟨1, [defaultChangelogPath]⟩, none, .null,
    defaultApiUrl, defaultTimeout⟩, (hload _).mpr ?_, rfl⟩
  exact {
    place := rfl
    commitTypes := .inr rfl
    templatePath := .inl ⟨.inl (.inl rfl), rfl⟩
    changelogPath := .inl ⟨.inl (.inl rfl), isPlaced_iff.mpr rfl⟩
    repository := .inl ⟨.inl rfl, rfl⟩
    token := .inl ⟨.inl rfl, rfl⟩
    apiUrl := .inl ⟨.inl (.inl rfl), rfl⟩
    timeout := .inl ⟨.inl rfl, rfl⟩ }

end ReleaseNotes.Settings
