import ReleaseNotes.Proofs.CommandLine.Codes

namespace ReleaseNotes

namespace CommandLine

/-!
How loading ends, in terms of what was loaded. A line that cannot be printed ends a run as
unexpected, so any other end speaks for every line before it.
-/

namespace Stage

theorem bind_eq_of_ok {stage : Stage α} {next : α → Stage β} {a : α} (h : stage.result = .ok a) :
    stage >>= next = ⟨(next a).result, stage.transcript ++ (next a).transcript⟩ := by
  show stage.andThen next = _
  simp only [andThen, h]

theorem bind_eq_of_error {stage : Stage α} {next : α → Stage β} {code : ExitCode}
    (h : stage.result = .error code) : stage >>= next = ⟨.error code, stage.transcript⟩ := by
  show stage.andThen next = _
  simp only [andThen, h]

theorem bind_of_ok {stage : Stage α} {next : α → Stage β} {a : α} (h : stage.result = .ok a) :
    (stage >>= next).result = (next a).result := by
  rw [bind_eq_of_ok h]

theorem bind_of_error {stage : Stage α} {next : α → Stage β} {code : ExitCode}
    (h : stage.result = .error code) : (stage >>= next).result = .error code := by
  rw [bind_eq_of_error h]

theorem bind_print_iff {line : Text} {next : Unit → Stage β} {result : Except ExitCode β}
    (hresult : result ≠ .error .unexpected) :
    (print line >>= next).result = result ↔
      Utf8.obstacle? line = none ∧ (next ()).result = result := by
  by_cases hline : Utf8.obstacle? line = none
  · rw [bind_of_ok (print_of_encodable hline)]
    exact (and_iff_right hline).symm
  · rw [bind_of_error (print_of_obstacle hline)]
    exact iff_of_false hresult.symm fun h => hline h.1

theorem header_ok (number : Nat) (title : String) : (header number title).result = .ok () := by
  unfold header
  rw [bind_of_ok (print_of_encodable rfl), bind_of_ok (print_of_encodable ?_),
    print_of_encodable rfl]
  simp only [Text.ofNat, Utf8.obstacle?_append_eq_none_iff, Utf8.obstacle?_ofChars,
    Utf8.obstacle?_text, and_self]

end Stage

namespace Options

variable (options : Options) (world : World)

/-- The settings or the template are refused as a configuration error. -/
def Misconfigured : Prop :=
  (∃ error, (options.settingsRequest world).load world.tree = .error (.config error)) ∨
    ∃ settings error, (options.settingsRequest world).load world.tree = .ok settings ∧
      settings.templateText world.tree = .error (.config error)

/-- Settings and template are there, and what is printed about them can be. -/
structure Loads (settings : Settings) (template : Text) : Prop where
  settingsLoaded : (options.settingsRequest world).load world.tree = .ok settings
  templateLoaded : settings.templateText world.tree = .ok template
  typesPrintable : Utf8.obstacle? settings.commitTypes = none
  pathPrintable : ∀ path, settings.templatePath = some path → Utf8.obstacle? path.text = none

variable {options world} {settings : Settings} {template : Text}

theorem Misconfigured.not_loads (h : options.Misconfigured world) :
    ¬ ∃ settings template, options.Loads world settings template := by
  rintro ⟨settings, template, hloads⟩
  obtain ⟨error, herror⟩ | ⟨loaded, error, hloaded, herror⟩ := h
  · cases hloads.settingsLoaded.symm.trans herror
  · cases hloads.settingsLoaded.symm.trans hloaded
    cases hloads.templateLoaded.symm.trans herror

theorem loadFailure_eq_configuration_iff {error : Settings.LoadError} :
    (loadFailure error : Stage α).result = .error .configuration ↔
      ∃ cause, error = .config cause := by
  cases error <;> simp [loadFailure, Stage.fail, Stage.unexpected]

/-- What was loaded goes on to the next stage, or the run ends with what went wrong. -/
def handOver (loaded : Except Settings.LoadError α) : Stage α :=
  match loaded with
  | .error error => loadFailure error
  | .ok value => Stage.done value

theorem handOver_eq_ok_iff {loaded : Except Settings.LoadError α} {value : α} :
    (handOver loaded).result = .ok value ↔ loaded = .ok value := by
  cases loaded with
  | error error => simp [handOver, loadFailure_ne_ok]
  | ok found => simp [handOver, Stage.done]

theorem handOver_eq_configuration_iff {loaded : Except Settings.LoadError α} :
    (handOver loaded).result = .error .configuration ↔ ∃ cause, loaded = .error (.config cause) := by
  cases loaded with
  | error error => simp [handOver, loadFailure_eq_configuration_iff]
  | ok found => simp [handOver, Stage.done]

theorem result_loadSettings :
    (options.loadSettings world).result =
      (handOver ((options.settingsRequest world).load world.tree)).result := by
  unfold loadSettings handOver
  rw [Stage.bind_of_ok rfl]
  cases (options.settingsRequest world).load world.tree <;> rfl

theorem result_loadTemplate :
    (loadTemplate world settings).result = (handOver (settings.templateText world.tree)).result := by
  unfold loadTemplate handOver
  rw [Stage.bind_of_ok rfl]
  cases settings.templateText world.tree <;> rfl

/-- What is left of the first stage once everything is loaded. -/
theorem loaded_iff {result : Except ExitCode (Settings × Text)}
    (hresult : result ≠ .error .unexpected) :
    (do
      Stage.success "Configuration loaded successfully".text
      Stage.detail ("Commit types: ".text ++ settings.commitTypes)
      Stage.detail ("Template: ".text ++ (settings.templatePath.map Path.text).getD "built-in".text)
      Stage.done (settings, template)).result = result ↔
        Utf8.obstacle? settings.commitTypes = none ∧
          (∀ path, settings.templatePath = some path → Utf8.obstacle? path.text = none) ∧
          .ok (settings, template) = result := by
  have hpath : Utf8.obstacle? ((settings.templatePath.map Path.text).getD "built-in".text) = none ↔
      ∀ path, settings.templatePath = some path → Utf8.obstacle? path.text = none := by
    cases settings.templatePath with
    | none => simp [Utf8.obstacle?_text]
    | some path => simp
  rw [Stage.success, Stage.bind_print_iff hresult, Stage.detail, Stage.bind_print_iff hresult,
    Stage.detail, Stage.bind_print_iff hresult]
  simp only [Utf8.obstacle?_append_eq_none_iff, Utf8.obstacle?_text, true_and, hpath]
  rfl

theorem load_eq_ok_iff :
    (options.load world).result = .ok (settings, template) ↔
      options.Loads world settings template := by
  unfold load
  rw [Stage.bind_of_ok (Stage.header_ok 1 _), Stage.bind_eq_ok_iff]
  simp only [result_loadSettings, handOver_eq_ok_iff]
  constructor
  · rintro ⟨loaded, hloaded, h⟩
    obtain ⟨found, hfound, h⟩ := Stage.bind_eq_ok_iff.mp h
    rw [result_loadTemplate, handOver_eq_ok_iff] at hfound
    obtain ⟨htypes, hpath, heq⟩ := (loaded_iff (by simp)).mp h
    cases heq
    exact ⟨hloaded, hfound, htypes, hpath⟩
  · rintro ⟨hsettings, htemplate, htypes, hpath⟩
    refine ⟨settings, hsettings, Stage.bind_eq_ok_iff.mpr ⟨template, ?_, ?_⟩⟩
    · rw [result_loadTemplate, handOver_eq_ok_iff]
      exact htemplate
    · exact (loaded_iff (by simp)).mpr ⟨htypes, hpath, rfl⟩

theorem load_eq_configuration_iff :
    (options.load world).result = .error .configuration ↔ options.Misconfigured world := by
  unfold load
  rw [Stage.bind_of_ok (Stage.header_ok 1 _), Stage.bind_eq_error_iff, result_loadSettings,
    handOver_eq_configuration_iff]
  refine or_congr Iff.rfl ?_
  simp only [handOver_eq_ok_iff]
  constructor
  · rintro ⟨loaded, hloaded, h⟩
    obtain h | ⟨found, -, h⟩ := Stage.bind_eq_error_iff.mp h
    · rw [result_loadTemplate, handOver_eq_configuration_iff] at h
      obtain ⟨error, herror⟩ := h
      exact ⟨loaded, error, hloaded, herror⟩
    · cases ((loaded_iff (by simp)).mp h).2.2
  · rintro ⟨loaded, error, hloaded, herror⟩
    refine ⟨loaded, hloaded, Stage.bind_eq_error_iff.mpr (.inl ?_)⟩
    rw [result_loadTemplate, handOver_eq_configuration_iff]
    exact ⟨error, herror⟩

end Options

end CommandLine

theorem Double.obstacle?_signText (negative : Bool) :
    Utf8.obstacle? (Double.signText negative) = none := by
  cases negative <;> rfl

theorem Double.obstacle?_tenths (d : Double) : Utf8.obstacle? d.tenths = none := by
  cases d with
  | nan => rfl
  | infinite negative => cases negative <;> rfl
  | finite negative m e =>
      simp only [tenths, Text.ofNat, Utf8.obstacle?_append_eq_none_iff, Utf8.obstacle?_ofChars,
        Utf8.obstacle?_text, obstacle?_signText, and_self]

namespace CommandLine.Stage

/-!
How a stage ends that asks git or the server. An error is a failure of the source, unless it could
not even be asked or its answer be understood.
-/

theorem progress_ok (message : String) : (progress message).result = .ok () := by
  refine print_of_encodable ?_
  simp only [Utf8.obstacle?_append_eq_none_iff, Utf8.obstacle?_text, and_self]

theorem progressDone_ok (elapsed : Double) : (progressDone elapsed).result = .ok () := by
  refine print_of_encodable ?_
  simp only [Utf8.obstacle?_append_eq_none_iff, Utf8.obstacle?_text, Double.obstacle?_tenths,
    and_self]

/-- What was found, with the answers that are left, or the failure of the source. -/
def answered (isUnexpected : ε → Bool) (left : List γ) : Except ε α → Except ExitCode (α × List γ)
  | .ok value => .ok (value, left)
  | .error error => .error (if isUnexpected error then .unexpected else .history)

variable {isUnexpected : ε → Bool} {left rest : List γ} {found : Except ε α} {value : α}

theorem answered_eq_ok_iff :
    answered isUnexpected left found = .ok (value, rest) ↔ found = .ok value ∧ left = rest := by
  cases found with
  | ok found => simp [answered]
  | error error => simp [answered]

theorem answered_eq_history_iff :
    answered isUnexpected left found = .error .history ↔
      ∃ error, found = .error error ∧ isUnexpected error = false := by
  cases found with
  | ok found => simp [answered]
  | error error => cases h : isUnexpected error <;> simp [answered, h]

theorem result_ofGit (folder : Location) (outcome : Git.Outcome α) :
    (ofGit folder outcome).result =
      answered Git.Error.isUnexpected outcome.answers outcome.result := by
  unfold ofGit
  rw [bind_of_ok rfl, bind_of_ok rfl]
  cases outcome.result with
  | ok value => rfl
  | error error =>
      simp only [answered]
      split <;> rfl

theorem result_ofServer (outcome : GitHub.Outcome α) :
    (ofServer outcome).result =
      answered GitHub.Error.isUnexpected outcome.responses outcome.result := by
  unfold ofServer
  rw [bind_of_ok rfl, bind_of_ok rfl]
  cases outcome.result with
  | ok value => rfl
  | error error =>
      simp only [answered]
      split <;> rfl

/-- What was found goes on to a stage that cannot fail. -/
theorem bind_answered_iff {stage : Stage (α × List γ)} {next : α × List γ → Stage β}
    {use : α → β} {result : Except ExitCode β}
    (hstage : stage.result = answered isUnexpected left found)
    (hnext : ∀ value, (next (value, left)).result = .ok (use value))
    (hresult : result ≠ .error .unexpected) :
    (stage >>= next).result = result ↔
      (∃ value, found = .ok value ∧ .ok (use value) = result) ∨
        ∃ error, found = .error error ∧ isUnexpected error = false ∧ .error .history = result := by
  cases found with
  | ok value =>
      rw [bind_of_ok hstage, hnext]
      simp
  | error error =>
      rw [bind_of_error hstage]
      cases h : isUnexpected error with
      | true => simpa [h] using hresult.symm
      | false => simp [h]

/-- Where a range starts is given, or it is searched for. -/
def startOr (given : Option Text) (use : Text → α) (search : Stage α) : Stage α :=
  match given with
  | some base => done (use base)
  | none => search

theorem startOr_eq_ok_iff {given : Option Text} {use : Text → α} {search : Stage α} :
    (startOr given use search).result = .ok value ↔
      (∃ base, given = some base ∧ use base = value) ∨
        given = none ∧ search.result = .ok value := by
  cases given with
  | some base => simp [startOr, done]
  | none => simp [startOr]

theorem startOr_eq_error_iff {given : Option Text} {use : Text → α} {search : Stage α}
    {code : ExitCode} :
    (startOr given use search).result = .error code ↔
      given = none ∧ search.result = .error code := by
  cases given with
  | some base => simp [startOr, done]
  | none => simp [startOr]

end CommandLine.Stage

end ReleaseNotes
