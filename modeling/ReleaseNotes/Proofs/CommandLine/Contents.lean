import ReleaseNotes.Proofs.CommandLine.Pipeline
import ReleaseNotes.Proofs.Release.Notes

namespace ReleaseNotes

namespace Settings

variable {settings : Settings} {tree : FileTree}

theorem templateText_eq_file_iff :
    (∃ error, settings.templateText tree = .error (.file error)) ↔
      ∃ path, settings.templatePath = some path ∧ tree.Breaks path := by
  unfold templateText
  cases settings.templatePath with
  | none => simp
  | some path =>
      simp only [Option.some.injEq, exists_eq_left']
      constructor
      · rintro ⟨error, h⟩
        split at h
        · cases h
        · cases h
        · rename_i reason hother hread
          exact FileTree.breaks_of_not_refused hread fun fault other hrefused =>
            hother fault other hrefused
      · intro hbreaks
        obtain ⟨error, hread, hother⟩ := hbreaks.readText
        refine ⟨error, ?_⟩
        rw [hread]
        cases error with
        | refused fault other => exact absurd rfl (hother fault other)
        | nulInPath | undecodable | unencodable | tooManyFolders => rfl

/-- Without a template there is a failure of the configuration or of the file. -/
theorem templateText_cases (settings : Settings) (tree : FileTree) :
    (∃ template, settings.templateText tree = .ok template) ∨
      (∃ error, settings.templateText tree = .error (.config error)) ∨
        ∃ error, settings.templateText tree = .error (.file error) := by
  unfold templateText
  split
  · exact .inl ⟨_, rfl⟩
  · split
    · exact .inl ⟨_, rfl⟩
    · exact .inr (.inl ⟨_, rfl⟩)
    · exact .inr (.inr ⟨_, rfl⟩)

end Settings

namespace CommandLine

/-!
What the contents of the files do to a run. Files that are missing or refused have codes of their
own; bytes that are no text have none and break the run off, as do texts that cannot be printed.
-/

namespace Options

variable {options : Options} {world : World} {settings : Settings}

/-- What is said about the settings once they are loaded can be printed. -/
structure IsPrintable (settings : Settings) : Prop where
  types : Utf8.obstacle? settings.commitTypes = none
  template : ∀ path, settings.templatePath = some path → Utf8.obstacle? path.text = none

/-- The run ends with the code for what nobody has foreseen. -/
inductive BreaksOff (options : Options) (world : World) (settings : Settings) : Prop
  | template {path : Path} :
      settings.templatePath = some path → world.tree.Breaks path →
      BreaksOff options world settings
  | loaded {template : Text} :
      settings.templateText world.tree = .ok template → ¬ IsPrintable settings →
      BreaksOff options world settings
  | version {template notes : Text} {messages : List Json} :
      options.Loads world settings template → options.Gathers world settings messages →
      Release.generate (options.draftOf settings template messages) options.order world.today =
        .ok notes →
      Utf8.obstacle? options.version ≠ none → BreaksOff options world settings
  | display {notes : Text} :
      options.Composes world settings notes → options.isDryRun = true →
      Utf8.obstacle? notes ≠ none → BreaksOff options world settings
  | changelog {notes : Text} :
      options.Composes world settings notes → options.isDryRun = false →
      world.tree.HoldsNoText settings.changelogPath → BreaksOff options world settings
  | write {notes previous : Text} :
      options.Composes world settings notes → options.isDryRun = false →
      ChangelogFile.previousText world.tree settings.changelogPath = .ok previous →
      ChangelogFile.Unwritable world.tree settings.changelogPath notes →
      BreaksOff options world settings
  | updated {notes previous : Text} :
      options.Composes world settings notes → options.isDryRun = false →
      ChangelogFile.previousText world.tree settings.changelogPath = .ok previous →
      ChangelogFile.CanWrite world.tree settings.changelogPath → Utf8.obstacle? notes = none →
      Utf8.obstacle? settings.changelogPath.text ≠ none → BreaksOff options world settings

/-! The first stage. -/

theorem load_eq_unexpected_iff :
    (options.load world).result = .error .unexpected ↔
      ¬ options.Misconfigured world ∧
        ¬ ∃ settings template, options.Loads world settings template := by
  rw [← load_eq_configuration_iff]
  simp only [← load_eq_ok_iff]
  cases hload : (options.load world).result with
  | ok loaded =>
      obtain ⟨settings, template⟩ := loaded
      simp
  | error code =>
      have hmem := options.endsIn_load world code hload
      revert hmem
      cases code <;> simp

theorem load_breaks_iff
    (hsettings : (options.settingsRequest world).load world.tree = .ok settings) :
    (options.load world).result = .error .unexpected ↔
      (∃ path, settings.templatePath = some path ∧ world.tree.Breaks path) ∨
        ∃ template, settings.templateText world.tree = .ok template ∧
          ¬ IsPrintable settings := by
  rw [load_eq_unexpected_iff, ← Settings.templateText_eq_file_iff]
  have hconfigured : options.Misconfigured world ↔
      ∃ error, settings.templateText world.tree = .error (.config error) := by
    simp [Misconfigured, hsettings]
  have hloads : (∃ settings template, options.Loads world settings template) ↔
      ∃ template, settings.templateText world.tree = .ok template ∧ IsPrintable settings := by
    constructor
    · rintro ⟨other, template, hloads⟩
      cases hsettings.symm.trans hloads.settingsLoaded
      exact ⟨template, hloads.templateLoaded, hloads.typesPrintable, hloads.pathPrintable⟩
    · rintro ⟨template, htemplate, hprintable⟩
      exact ⟨settings, template, hsettings, htemplate, hprintable.types, hprintable.template⟩
  rw [hconfigured, hloads]
  obtain ⟨template, htemplate⟩ | ⟨error, herror⟩ | ⟨error, herror⟩ :=
    settings.templateText_cases world.tree
  · simp [htemplate]
  · simp [herror]
  · simp [herror]

/-! The third stage. -/

theorem render_breaks_iff {template : Text} {messages : List Text} :
    (options.render world
        (options.draftOf settings template (messages.map .string))).result = .error .unexpected ↔
      ∃ notes, Release.generate (options.draftOf settings template (messages.map .string))
        options.order world.today = .ok notes ∧ Utf8.obstacle? options.version ≠ none := by
  unfold render
  rw [Stage.bind_of_ok (Stage.header_ok 3 _), Stage.bind_of_ok rfl]
  cases hgenerate : Release.generate (options.draftOf settings template (messages.map .string))
      options.order world.today with
  | error error =>
      obtain ⟨fault, rfl⟩ | ⟨fault, rfl⟩ := Release.generate_strings_eq_error hgenerate
      · simp [renderFailure, Stage.fail]
      · simp [renderFailure, Stage.fail]
  | ok notes =>
      by_cases hversion : Utf8.obstacle? options.version = none
      · have hprinted : (Stage.success ("Rendered changelog for version ".text ++
            options.version)).result = .ok () := by
          refine Stage.print_of_encodable ?_
          simp only [Utf8.obstacle?_append_eq_none_iff, Utf8.obstacle?_text, hversion, and_self]
        simp only [Stage.bind_of_ok hprinted]
        simp [Stage.done, hversion]
      · have hbroken : (Stage.success ("Rendered changelog for version ".text ++
            options.version)).result = .error .unexpected := by
          refine Stage.print_of_obstacle ?_
          simp only [ne_eq, Utf8.obstacle?_append_eq_none_iff, hversion, and_false,
            not_false_eq_true]
        simp only [Stage.bind_of_error hbroken]
        simp [hversion]

/-! The last stage. -/

theorem code_finish_eq_unexpected_iff {tree : FileTree} {notes : Text} :
    codeOf (options.finish tree settings notes).2.result = .unexpected ↔
      if options.isDryRun then Utf8.obstacle? notes ≠ none
      else (ChangelogFile.prepend tree settings.changelogPath notes).2 = .ok () ∧
          Utf8.obstacle? settings.changelogPath.text ≠ none ∨
        ∃ error, (ChangelogFile.prepend tree settings.changelogPath notes).2 = .error error ∧
          ∀ fault path, error ≠ .refused fault path := by
  have hcode : codeOf (options.finish tree settings notes).2.result = .unexpected ↔
      codeOf (options.finish tree settings notes).2.result ≠ .success ∧
        codeOf (options.finish tree settings notes).2.result ≠ .writing := by
    have hmem := options.code_finish_mem tree settings notes
    revert hmem
    cases codeOf (options.finish tree settings notes).2.result <;> decide
  rw [hcode, ne_eq, ne_eq, code_finish_eq_success_iff, code_finish_eq_writing_iff]
  cases options.isDryRun with
  | true => simp
  | false =>
      cases (ChangelogFile.prepend tree settings.changelogPath notes).2 with
      | ok written => simp
      | error error => simp

theorem breaksOff_of_finish {notes : Text} (h : options.Composes world settings notes) :
    codeOf (options.finish world.tree settings notes).2.result = .unexpected →
      BreaksOff options world settings := by
  rw [code_finish_eq_unexpected_iff]
  cases hdry : options.isDryRun with
  | true => exact fun hnotes => .display h hdry (by simpa using hnotes)
  | false =>
      simp only [Bool.false_eq_true, if_false, ChangelogFile.prepend_breaks_iff,
        ChangelogFile.prepend_eq_ok_iff]
      rintro (⟨⟨⟨previous, hprevious⟩, hwrite, hnotes⟩, hpath⟩ | htext |
        ⟨previous, hprevious, hunwritable⟩)
      · exact .updated h hdry hprevious hwrite hnotes hpath
      · exact .changelog h hdry htext
      · exact .write h hdry hprevious hunwritable

/-! The run. -/

theorem Composes.settingsLoaded {notes : Text} (h : options.Composes world settings notes) :
    (options.settingsRequest world).load world.tree = .ok settings := by
  cases h with
  | notes hloads => exact hloads.settingsLoaded

theorem code_run_eq_unexpected_iff :
    (options.run world).code = .unexpected ↔
      (options.compose world).result = .error .unexpected ∨
        ∃ settings notes, options.Composes world settings notes ∧
          codeOf (options.finish world.tree settings notes).2.result = .unexpected := by
  simp only [← compose_eq_ok_iff]
  cases hcomposed : (options.compose world).result with
  | error reason =>
      have hrun : (options.run world).code = reason := by simp only [run, hcomposed]
      simp [hrun]
  | ok composed =>
      obtain ⟨settings, notes⟩ := composed
      rw [(run_of_ok hcomposed).2]
      simp

variable
  (hsettings : (options.settingsRequest world).load world.tree = .ok settings)
  (hgathers : ∀ template, options.Loads world settings template →
    ∃ messages : List Text, options.Gathers world settings (messages.map .string))

include hsettings hgathers

theorem breaksOff_of_code (h : (options.run world).code = .unexpected) :
    BreaksOff options world settings := by
  obtain hcompose | ⟨other, notes, hcomposes, hfinish⟩ := code_run_eq_unexpected_iff.mp h
  · obtain hload | ⟨other, template, hloads, hlater⟩ := compose_eq_error_iff.mp hcompose
    · obtain ⟨path, hpath, hbreaks⟩ | ⟨template, htemplate, hprintable⟩ :=
        (load_breaks_iff hsettings).mp hload
      · exact .template hpath hbreaks
      · exact .loaded htemplate hprintable
    · cases hsettings.symm.trans hloads.settingsLoaded
      obtain ⟨texts, htexts⟩ := hgathers template hloads
      have hgathered := gather_eq_ok_iff.mpr htexts
      obtain hgather | ⟨messages, hmessages, hrender⟩ := hlater
      · cases hgathered.symm.trans hgather
      · obtain rfl := Except.ok.inj (hgathered.symm.trans (gather_eq_ok_iff.mpr hmessages))
        obtain ⟨notes, hnotes, hversion⟩ := render_breaks_iff.mp hrender
        exact .version hloads htexts hnotes hversion
  · cases hsettings.symm.trans hcomposes.settingsLoaded
    exact breaksOff_of_finish hcomposes hfinish

theorem code_of_breaksOff (h : BreaksOff options world settings) :
    (options.run world).code = .unexpected := by
  rw [code_run_eq_unexpected_iff]
  cases h with
  | template hpath hbreaks =>
      have hload := (load_breaks_iff hsettings).mpr (.inl ⟨_, hpath, hbreaks⟩)
      exact .inl (compose_eq_error_iff.mpr (.inl hload))
  | loaded htemplate hprintable =>
      have hload := (load_breaks_iff hsettings).mpr (.inr ⟨_, htemplate, hprintable⟩)
      exact .inl (compose_eq_error_iff.mpr (.inl hload))
  | version hloads hmessages hnotes hversion =>
      obtain ⟨texts, htexts⟩ := hgathers _ hloads
      obtain rfl := Except.ok.inj
        ((gather_eq_ok_iff.mpr hmessages).symm.trans (gather_eq_ok_iff.mpr htexts))
      have hrender := render_breaks_iff.mpr ⟨_, hnotes, hversion⟩
      exact .inl (compose_eq_error_iff.mpr (.inr ⟨_, _, hloads, .inr ⟨_, htexts, hrender⟩⟩))
  | display hcomposes hdry hnotes =>
      refine .inr ⟨_, _, hcomposes, code_finish_eq_unexpected_iff.mpr ?_⟩
      rw [if_pos hdry]
      exact hnotes
  | changelog hcomposes hdry htext =>
      refine .inr ⟨_, _, hcomposes, code_finish_eq_unexpected_iff.mpr ?_⟩
      rw [if_neg (by simp [hdry])]
      exact .inr (ChangelogFile.prepend_breaks_iff.mpr (.inl htext))
  | write hcomposes hdry hprevious hunwritable =>
      refine .inr ⟨_, _, hcomposes, code_finish_eq_unexpected_iff.mpr ?_⟩
      rw [if_neg (by simp [hdry])]
      exact .inr (ChangelogFile.prepend_breaks_iff.mpr (.inr ⟨_, hprevious, hunwritable⟩))
  | updated hcomposes hdry hprevious hwrite hnotes hpath =>
      refine .inr ⟨_, _, hcomposes, code_finish_eq_unexpected_iff.mpr ?_⟩
      rw [if_neg (by simp [hdry])]
      exact .inl ⟨ChangelogFile.prepend_eq_ok_iff.mpr ⟨⟨_, hprevious⟩, hwrite, hnotes⟩, hpath⟩

/-- A source that gives the messages has not failed. -/
theorem code_ne_of_gathers :
    (options.run world).code ≠ .noRepository ∧ (options.run world).code ≠ .history := by
  have hgather : ∀ template code, options.Loads world settings template →
      (options.gather world settings).result ≠ .error code := by
    intro template code hloads hfailed
    obtain ⟨texts, htexts⟩ := hgathers template hloads
    cases (gather_eq_ok_iff.mpr htexts).symm.trans hfailed
  constructor
  · intro hcode
    obtain ⟨other, template, hloads, houtside⟩ := code_eq_noRepository_iff.mp hcode
    cases hsettings.symm.trans hloads.settingsLoaded
    exact hgather template _ hloads (gather_eq_noRepository_iff.mpr houtside)
  · intro hcode
    obtain ⟨other, template, hloads, hfails⟩ := code_eq_history_iff.mp hcode
    cases hsettings.symm.trans hloads.settingsLoaded
    exact hgather template _ hloads (gather_eq_history_iff.mpr hfails)

end Options

/-- How a run ends whatever the template file and the changelog hold: never with 1, and with the
codes for the configuration and for writing where one of them cannot be read. -/
structure EndsAsDocumented (options : Options) (world : World) (settings : Settings) (code : Nat) :
    Prop where
  documented : code ∈ [0, 5, 9, 10]
  template : ∀ path error, settings.templatePath = some path →
    world.tree.readText path = .error error → code = 5
  changelog : ∀ notes error, options.Composes world settings notes → options.isDryRun = false →
    world.tree.exists? settings.changelogPath = .ok true →
    world.tree.readText settings.changelogPath = .error error → code = 10

variable {options : Options} {world : World} {settings : Settings}

theorem Options.code_of_unread_template {path : Path} {error : FileError}
    (hsettings : (options.settingsRequest world).load world.tree = .ok settings)
    (hpath : settings.templatePath = some path) (hread : world.tree.readText path = .error error)
    (hbreaks : ¬ world.tree.Breaks path) : (options.run world).code = .configuration := by
  have hrefused : ∃ fault other, error = .refused fault other := by
    by_contra hnone
    exact hbreaks (FileTree.breaks_of_not_refused hread fun fault other h => hnone ⟨fault, other, h⟩)
  obtain ⟨fault, other, rfl⟩ := hrefused
  have htemplate : settings.templateText world.tree =
      .error (.config (.templateUnreadable fault other)) := by
    simp only [Settings.templateText, hpath, hread]
  exact code_eq_configuration_iff.mpr (.inl (.inr ⟨settings, _, hsettings, htemplate⟩))

theorem Options.code_of_unread_changelog {notes : Text} {error : FileError}
    (hcomposes : options.Composes world settings notes) (hwrites : options.isDryRun = false)
    (hexists : world.tree.exists? settings.changelogPath = .ok true)
    (hread : world.tree.readText settings.changelogPath = .error error)
    (htext : ¬ world.tree.HoldsNoText settings.changelogPath) :
    (options.run world).code = .writing := by
  obtain rfl | ⟨bytes, failure, hbytes, hdecode, _⟩ := FileTree.fault_of_readText hexists hread
  · have hprepend : (ChangelogFile.prepend world.tree settings.changelogPath notes).2 =
        .error (.refused .isFolder settings.changelogPath) := by
      simp only [ChangelogFile.prepend, ChangelogFile.previousText, hexists, hread]
    exact code_eq_writing_iff.mpr ⟨settings, notes, _, _, hcomposes, hwrites, hprepend⟩
  · exact absurd ⟨bytes, failure, hbytes, hdecode⟩ htext

theorem code_invoke {arguments : List Text}
    (h : Invocation.read world.tree arguments = .run options) :
    (invoke arguments world).code = (options.run world).code := by
  rw [invoke_of_run h]
  rfl

/-- A run whose settings are loaded and whose source gives texts ends as documented, unless it
breaks off. -/
theorem endsAsDocumented_iff {arguments : List Text}
    (hread : Invocation.read world.tree arguments = .run options)
    (hsettings : (options.settingsRequest world).load world.tree = .ok settings)
    (hgathers : ∀ template, options.Loads world settings template →
      ∃ messages : List Text, options.Gathers world settings (messages.map .string)) :
    EndsAsDocumented options world settings (invoke arguments world).code.number ↔
      ¬ options.BreaksOff world settings := by
  rw [code_invoke hread]
  constructor
  · intro hends hbreaks
    have hdocumented := hends.documented
    rw [Options.code_of_breaksOff hsettings hgathers hbreaks] at hdocumented
    exact absurd hdocumented (by decide)
  · intro hkeeps
    have hcode : (options.run world).code ≠ .unexpected :=
      fun h => hkeeps (Options.breaksOff_of_code hsettings hgathers h)
    obtain ⟨hrepository, hhistory⟩ := Options.code_ne_of_gathers hsettings hgathers
    refine ⟨?_, ?_, ?_⟩
    · have hmem := options.code_mem world
      revert hmem hcode hrepository hhistory
      cases (options.run world).code <;> decide
    · intro path error hpath htemplate
      rw [Options.code_of_unread_template hsettings hpath htemplate
        fun hbreaks => hkeeps (.template hpath hbreaks)]
      rfl
    · intro notes error hcomposes hwrites hexists hchangelog
      rw [Options.code_of_unread_changelog hcomposes hwrites hexists hchangelog
        fun htext => hkeeps (.changelog hcomposes hwrites htext)]
      rfl

/-- A folder stands where the changelog should be. -/
theorem endsAsDocumented_iff_folder :
    let arguments := ["--version-name".text, "1.1.0".text, "--from".text, "v1.0.0".text]
    let options : Options :=
      { version := "1.1.0".text, fromRef := some "v1.0.0".text, toRef := "HEAD".text
        source := .git, mapping := none, template := none, output := none, workspace := none
        order := .firstSeen, isDryRun := false, isVerbose := false }
    let world : World :=
      { tree := ⟨[([".git".text], .folder), (["CHANGELOG.md".text], .folder)], [], by decide⟩
        environment := []
        git := [.ran 0 (Utf8.encodeChars "feat: add search\n\x1E\n".toList) []]
        server := []
        today := ⟨2024, 3, 5, by decide, by decide, by decide⟩
        elapsed := .zero false }
    let settings : Settings :=
      { workspace := ⟨1, []⟩, commitTypes := Settings.defaultCommitTypes, templatePath := none
        changelogPath := ⟨1, [Settings.defaultChangelogPath]⟩, repository := none, token := .null
        apiUrl := Settings.defaultApiUrl, timeout := Settings.defaultTimeout }
    Invocation.read world.tree arguments = .run options ∧
      (options.settingsRequest world).load world.tree = .ok settings ∧
      (∀ template, options.Loads world settings template →
        ∃ messages : List Text, options.Gathers world settings (messages.map .string)) ∧
      (invoke arguments world).code.number = 10 ∧
      EndsAsDocumented options world settings (invoke arguments world).code.number := by
  intro arguments options world settings
  have hread : Invocation.read world.tree arguments = .run options := rfl
  have hsettings : (options.settingsRequest world).load world.tree = .ok settings := rfl
  have hgathers : ∀ template, options.Loads world settings template →
      ∃ messages : List Text, options.Gathers world settings (messages.map .string) := by
    intro template _
    have hcommits : (Git.commits "v1.0.0..HEAD".text true world.git).result =
        .ok ["feat: add search".text] := by
      decide +kernel
    exact ⟨_, ⟨[], Options.isAsked_iff.mpr ⟨rfl, rfl⟩⟩, .commits (.given rfl) rfl hcommits⟩
  have hcode : (invoke arguments world).code.number = 10 := by decide +kernel
  refine ⟨hread, hsettings, hgathers, hcode, ?_⟩
  refine (endsAsDocumented_iff hread hsettings hgathers).mpr fun hbreaks => ?_
  rw [code_invoke hread, Options.code_of_breaksOff hsettings hgathers hbreaks] at hcode
  exact absurd hcode (by decide)

/-- A template file that holds one byte, which is no UTF-8. -/
theorem not_endsAsDocumented_undecodable :
    let arguments := ["--version-name".text, "1.1.0".text, "--template".text, "t.md".text]
    let options : Options :=
      { version := "1.1.0".text, fromRef := none, toRef := "HEAD".text
        source := .git, mapping := none, template := some "t.md".text, output := none
        workspace := none, order := .firstSeen, isDryRun := false, isVerbose := false }
    let world : World :=
      { tree := ⟨[([".git".text], .folder), (["t.md".text], .file [0xff])], [], by decide⟩
        environment := []
        git := []
        server := []
        today := ⟨2024, 3, 5, by decide, by decide, by decide⟩
        elapsed := .zero false }
    let settings : Settings :=
      { workspace := ⟨1, []⟩, commitTypes := Settings.defaultCommitTypes
        templatePath := some ⟨1, ["t.md".text]⟩
        changelogPath := ⟨1, [Settings.defaultChangelogPath]⟩, repository := none, token := .null
        apiUrl := Settings.defaultApiUrl, timeout := Settings.defaultTimeout }
    Invocation.read world.tree arguments = .run options ∧
      (options.settingsRequest world).load world.tree = .ok settings ∧
      (∀ template, ¬ options.Loads world settings template) ∧
      (invoke arguments world).code.number = 1 ∧
      ¬ EndsAsDocumented options world settings (invoke arguments world).code.number := by
  intro arguments options world settings
  have hcode : (invoke arguments world).code.number = 1 := by decide +kernel
  have htext : world.tree.HoldsNoText ⟨1, ["t.md".text]⟩ := ⟨[0xff], _, rfl, rfl⟩
  refine ⟨rfl, rfl, fun template hloads => ?_, hcode, fun hends => ?_⟩
  · obtain ⟨error, herror⟩ : ∃ error, settings.templateText world.tree = .error (.file error) :=
      Settings.templateText_eq_file_iff.mpr ⟨_, rfl, .inr htext⟩
    exact nomatch herror.symm.trans hloads.templateLoaded
  · obtain ⟨failure, hread⟩ := FileTree.readText_of_holdsNoText htext
    rw [hends.template _ _ rfl hread] at hcode
    exact absurd hcode (by decide)

end CommandLine

end ReleaseNotes
