import ReleaseNotes.Proofs.CommandLine.Calls

namespace ReleaseNotes.CommandLine

/-!
A run is a row of stages, and the first one that fails gives the code. What a later stage would have
printed, asked for or written is not part of the run.
-/

namespace Options

variable {options : Options} {world : World} {settings : Settings}

/-! The third stage. -/

theorem render_eq_ok_iff {draft : Release.Draft} {notes : Text} :
    (options.render world draft).result = .ok notes ↔
      Release.generate draft options.order world.today = .ok notes ∧
        Utf8.obstacle? options.version = none := by
  unfold render
  rw [Stage.bind_of_ok (Stage.header_ok 3 _), Stage.bind_of_ok rfl]
  cases Release.generate draft options.order world.today with
  | error error => cases error <;> simp [renderFailure, Stage.fail, Stage.unexpected]
  | ok found =>
      simp only [Stage.success]
      rw [Stage.bind_print_iff (by simp)]
      simp only [Utf8.obstacle?_append_eq_none_iff, Utf8.obstacle?_text, true_and]
      simp [Stage.done, and_comm]

/-- How the third stage fails, other than by a line that cannot be printed. -/
theorem render_eq_error_iff {draft : Release.Draft} {code : ExitCode} (hcode : code ≠ .unexpected) :
    (options.render world draft).result = .error code ↔
      ∃ error, Release.generate draft options.order world.today = .error error ∧
        (renderFailure error : Stage Text).result = .error code := by
  unfold render
  rw [Stage.bind_of_ok (Stage.header_ok 3 _), Stage.bind_of_ok rfl]
  cases Release.generate draft options.order world.today with
  | error error => simp
  | ok found =>
      simp only [Stage.success]
      rw [Stage.bind_print_iff (by simpa using hcode)]
      simp [Stage.done]

theorem render_eq_configuration_iff {draft : Release.Draft} :
    (options.render world draft).result = .error .configuration ↔
      ∃ error, Release.generate draft options.order world.today = .error (.categories error) := by
  rw [render_eq_error_iff (by decide)]
  constructor
  · rintro ⟨error, hgenerate, hcode⟩
    cases error with
    | categories error => exact ⟨error, hgenerate⟩
    | _ => cases hcode
  · rintro ⟨error, hgenerate⟩
    exact ⟨_, hgenerate, rfl⟩

theorem render_eq_template_iff {draft : Release.Draft} :
    (options.render world draft).result = .error .template ↔
      ∃ error, Release.generate draft options.order world.today = .error (.template error) := by
  rw [render_eq_error_iff (by decide)]
  constructor
  · rintro ⟨error, hgenerate, hcode⟩
    cases error with
    | template error => exact ⟨error, hgenerate⟩
    | _ => cases hcode
  · rintro ⟨error, hgenerate⟩
    exact ⟨_, hgenerate, rfl⟩

/-! The stages that only read. -/

def draftOf (options : Options) (settings : Settings) (template : Text) (messages : List Json) :
    Release.Draft :=
  ⟨options.version, messages, settings.commitTypes, template⟩

/-- The notes that a run comes to. -/
inductive Composes (options : Options) (world : World) : Settings → Text → Prop
  | notes {settings : Settings} {template notes : Text} {messages : List Json} :
      options.Loads world settings template → options.Gathers world settings messages →
      Release.generate (options.draftOf settings template messages) options.order world.today =
        .ok notes →
      Utf8.obstacle? options.version = none → Composes options world settings notes

theorem compose_eq_ok_iff {notes : Text} :
    (options.compose world).result = .ok (settings, notes) ↔
      options.Composes world settings notes := by
  unfold compose
  rw [Stage.bind_eq_ok_iff]
  constructor
  · rintro ⟨⟨loaded, template⟩, hload, h⟩
    obtain ⟨messages, hgather, h⟩ := Stage.bind_eq_ok_iff.mp h
    obtain ⟨found, hrender, h⟩ := Stage.bind_eq_ok_iff.mp h
    rw [Stage.bind_of_ok (Stage.header_ok 4 _)] at h
    cases h
    obtain ⟨hgenerate, hversion⟩ := render_eq_ok_iff.mp hrender
    exact .notes (load_eq_ok_iff.mp hload) (gather_eq_ok_iff.mp hgather) hgenerate hversion
  · rintro ⟨hload, hgather, hgenerate, hversion⟩
    refine ⟨_, load_eq_ok_iff.mpr hload, ?_⟩
    refine Stage.bind_eq_ok_iff.mpr ⟨_, gather_eq_ok_iff.mpr hgather, ?_⟩
    refine Stage.bind_eq_ok_iff.mpr ⟨_, render_eq_ok_iff.mpr ⟨hgenerate, hversion⟩, ?_⟩
    rw [Stage.bind_of_ok (Stage.header_ok 4 _)]
    rfl

theorem compose_eq_error_iff {code : ExitCode} :
    (options.compose world).result = .error code ↔
      (options.load world).result = .error code ∨
        ∃ settings template, options.Loads world settings template ∧
          ((options.gather world settings).result = .error code ∨
            ∃ messages, options.Gathers world settings messages ∧
              (options.render world (options.draftOf settings template messages)).result =
                .error code) := by
  unfold compose
  rw [Stage.bind_eq_error_iff]
  refine or_congr Iff.rfl ?_
  constructor
  · rintro ⟨⟨loaded, template⟩, hload, h⟩
    refine ⟨loaded, template, load_eq_ok_iff.mp hload, ?_⟩
    obtain h | ⟨messages, hgather, h⟩ := Stage.bind_eq_error_iff.mp h
    · exact .inl h
    · obtain h | ⟨notes, _, h⟩ := Stage.bind_eq_error_iff.mp h
      · exact .inr ⟨messages, gather_eq_ok_iff.mp hgather, h⟩
      · rw [Stage.bind_of_ok (Stage.header_ok 4 _)] at h
        cases h
  · rintro ⟨loaded, template, hload, h⟩
    refine ⟨(loaded, template), load_eq_ok_iff.mpr hload, Stage.bind_eq_error_iff.mpr ?_⟩
    obtain h | ⟨messages, hgather, h⟩ := h
    · exact .inl h
    · exact .inr ⟨messages, gather_eq_ok_iff.mpr hgather, Stage.bind_eq_error_iff.mpr (.inl h)⟩

/-! The last stage and the code of a run. -/

theorem code_finish_eq_success_iff {tree : FileTree} {notes : Text} :
    codeOf (options.finish tree settings notes).2.result = .success ↔
      if options.isDryRun then Utf8.obstacle? notes = none
      else (ChangelogFile.prepend tree settings.changelogPath notes).2 = .ok () ∧
        Utf8.obstacle? settings.changelogPath.text = none := by
  unfold finish
  cases options.isDryRun with
  | true =>
      simp only [if_true, code_display]
      split <;> simp_all
  | false => exact code_write_eq_success_iff

theorem code_finish_eq_writing_iff {tree : FileTree} {notes : Text} :
    codeOf (options.finish tree settings notes).2.result = .writing ↔
      options.isDryRun = false ∧ ∃ fault path,
        (ChangelogFile.prepend tree settings.changelogPath notes).2 =
          .error (.refused fault path) := by
  unfold finish
  cases options.isDryRun with
  | true =>
      simp only [if_true, code_display]
      split <;> simp
  | false => simpa using code_write_eq_writing_iff settings

theorem code_finish_mem (options : Options) (tree : FileTree) (settings : Settings)
    (notes : Text) :
    codeOf (options.finish tree settings notes).2.result ∈
      [ExitCode.success, .unexpected, .writing] := by
  unfold finish
  split
  · rw [code_display]
    split <;> decide
  · cases hcode : codeOf (write tree settings notes).2.result with
    | success => decide
    | _ =>
        have hwrite := code_write_ne_success settings (by rw [hcode]; decide)
        rw [hcode] at hwrite
        revert hwrite
        decide

/-- Before the last stage no run ends well, and none has tried to write. -/
theorem code_run_eq_iff_of_late {code : ExitCode} (hcode : code = .success ∨ code = .writing) :
    (options.run world).code = code ↔
      ∃ settings notes, options.Composes world settings notes ∧
        codeOf (options.finish world.tree settings notes).2.result = code := by
  cases hcomposed : (options.compose world).result with
  | error reason =>
      have hmem := options.endsIn_compose world reason hcomposed
      have hrun : (options.run world).code = reason := by simp only [run, hcomposed]
      rw [hrun]
      constructor
      · rintro rfl
        obtain rfl | rfl := hcode <;> exact absurd hmem (by decide)
      · rintro ⟨settings, notes, h, _⟩
        cases hcomposed.symm.trans (compose_eq_ok_iff.mpr h)
  | ok composed =>
      obtain ⟨settings, notes⟩ := composed
      rw [(run_of_ok hcomposed).2]
      constructor
      · intro h
        exact ⟨settings, notes, compose_eq_ok_iff.mp hcomposed, h⟩
      · rintro ⟨other, otherNotes, h, hfinish⟩
        cases hcomposed.symm.trans (compose_eq_ok_iff.mpr h)
        exact hfinish

theorem code_run_eq_iff_of_early {code : ExitCode}
    (hcode : code ∉ [ExitCode.success, .unexpected, .writing]) :
    (options.run world).code = code ↔
      (options.load world).result = .error code ∨
        ∃ settings template, options.Loads world settings template ∧
          ((options.gather world settings).result = .error code ∨
            ∃ messages, options.Gathers world settings messages ∧
              (options.render world (options.draftOf settings template messages)).result =
                .error code) := by
  rw [← compose_eq_error_iff]
  cases hcomposed : (options.compose world).result with
  | error reason => simp [run, hcomposed]
  | ok composed =>
      have hmem := options.code_finish_mem world.tree composed.1 composed.2
      rw [(run_of_ok hcomposed).2]
      constructor
      · intro h
        exact absurd (h ▸ hmem) hcode
      · intro h
        cases h

end Options

/-! What a run consists of. -/

theorem Transcript.append_assoc (t u v : Transcript) : t ++ u ++ v = t ++ (u ++ v) := by
  show Transcript.append (Transcript.append t u) v = Transcript.append t (Transcript.append u v)
  simp only [Transcript.append, List.append_assoc]

theorem Transcript.append_empty (t : Transcript) : t ++ Transcript.empty = t := by
  show Transcript.append t .empty = t
  simp only [Transcript.append, Transcript.empty, List.append_nil]

namespace Options

/-- A run up to its first failing stage: nothing else is printed, logged or asked for, and only the
last stage changes the tree. -/
inductive Course (options : Options) (world : World) : Report → Prop
  | loading {code : ExitCode} :
      (options.load world).result = .error code →
      Course options world ⟨code, (options.load world).transcript, world.tree⟩
  | gathering {settings : Settings} {template : Text} {code : ExitCode} :
      options.Loads world settings template →
      (options.gather world settings).result = .error code →
      Course options world
        ⟨code, (options.load world).transcript ++ (options.gather world settings).transcript,
          world.tree⟩
  | rendering {settings : Settings} {template : Text} {messages : List Json} {code : ExitCode} :
      options.Loads world settings template → options.Gathers world settings messages →
      (options.render world (options.draftOf settings template messages)).result = .error code →
      Course options world
        ⟨code, (options.load world).transcript ++ (options.gather world settings).transcript ++
            (options.render world (options.draftOf settings template messages)).transcript,
          world.tree⟩
  | finishing {settings : Settings} {template notes : Text} {messages : List Json} :
      options.Loads world settings template → options.Gathers world settings messages →
      (options.render world (options.draftOf settings template messages)).result = .ok notes →
      Course options world
        ⟨codeOf (options.finish world.tree settings notes).2.result,
          (options.load world).transcript ++ (options.gather world settings).transcript ++
            (options.render world (options.draftOf settings template messages)).transcript ++
            (Stage.header 4 "Writing Changelog").transcript ++
            (options.finish world.tree settings notes).2.transcript,
          (options.finish world.tree settings notes).1⟩

theorem course_run (options : Options) (world : World) :
    Course options world (options.run world) := by
  cases hload : (options.load world).result with
  | error code =>
      have hcompose : options.compose world = _ := Stage.bind_eq_of_error hload
      simpa only [run, hcompose] using Course.loading hload
  | ok loaded =>
      obtain ⟨settings, template⟩ := loaded
      have hloads := load_eq_ok_iff.mp hload
      have hcompose : options.compose world = _ := Stage.bind_eq_of_ok hload
      cases hgather : (options.gather world settings).result with
      | error code =>
          simp only [Stage.bind_eq_of_error hgather] at hcompose
          simpa only [run, hcompose] using Course.gathering hloads hgather
      | ok messages =>
          have hgathers := gather_eq_ok_iff.mp hgather
          simp only [Stage.bind_eq_of_ok hgather] at hcompose
          cases hrender :
              (options.render world (options.draftOf settings template messages)).result with
          | error code =>
              simp only [draftOf] at hrender
              simp only [Stage.bind_eq_of_error hrender] at hcompose
              have hcourse := Course.rendering hloads hgathers hrender
              simpa only [run, hcompose, draftOf, Transcript.append_assoc] using hcourse
          | ok notes =>
              simp only [draftOf] at hrender
              simp only [Stage.bind_eq_of_ok hrender, Stage.bind_eq_of_ok (Stage.header_ok 4 _),
                Stage.done, Transcript.append_empty] at hcompose
              have hcourse := Course.finishing hloads hgathers hrender
              simpa only [run, hcompose, draftOf, Transcript.append_assoc] using hcourse

/-- What a run comes to. A code other than 1 tells which stage was the first to fail, and how; where
all stages before have gone through, that failure does lead to the code. -/
structure StopsAtFirstFailure (options : Options) (world : World) (result : Result) : Prop where
  course : ∃ report, Course options world report ∧ result = report.result options.isVerbose
  noRepository :
    result.code.number = 3 ↔
      ∃ settings template, options.Loads world settings template ∧
        options.source = .git ∧ IsOutside world.tree settings.workspace
  configuration :
    result.code.number = 5 ↔
      options.Misconfigured world ∨
        ∃ settings template, options.Loads world settings template ∧
          (options.source = .gitHub ∧ IsNameless settings ∨
            ∃ messages error, options.Gathers world settings messages ∧
              Release.generate (options.draftOf settings template messages) options.order
                world.today = .error (.categories error))
  source :
    result.code.number = 6 ↔
      ∃ settings template, options.Loads world settings template ∧
        options.SourceFails world settings
  template :
    result.code.number = 9 ↔
      ∃ settings template messages error, options.Loads world settings template ∧
        options.Gathers world settings messages ∧
          Release.generate (options.draftOf settings template messages) options.order world.today =
            .error (.template error)
  writing :
    result.code.number = 10 ↔
      ∃ settings notes fault path, options.Composes world settings notes ∧
        options.isDryRun = false ∧
          (ChangelogFile.prepend world.tree settings.changelogPath notes).2 =
            .error (.refused fault path)
  success :
    result.code.number = 0 ↔
      ∃ settings notes, options.Composes world settings notes ∧
        if options.isDryRun then Utf8.obstacle? notes = none
        else (ChangelogFile.prepend world.tree settings.changelogPath notes).2 = .ok () ∧
          Utf8.obstacle? settings.changelogPath.text = none
  /-- Whatever else goes wrong ends a run with 1. -/
  others : result.code.number ∈ [0, 1, 3, 5, 6, 9, 10]
  asksNothing :
    (options.Misconfigured world ∨ ¬ ∃ settings template, options.Loads world settings template) →
      result.gitCalls = [] ∧ result.requests = []
  asksNoGitOutside : ∀ settings template, options.Loads world settings template →
    options.source = .git → IsOutside world.tree settings.workspace → result.gitCalls = []
  asksNoServerNameless : ∀ settings template, options.Loads world settings template →
    options.source = .gitHub → IsNameless settings → result.requests = []
  asksNoServer : options.source = .git → result.requests = []
  asksNoGit : options.source = .gitHub → result.gitCalls = []
  keepsTree :
    (options.isDryRun ∨ ¬ ∃ settings notes, options.Composes world settings notes) →
      result.tree = world.tree

variable {options : Options} {world : World}

theorem number_eq_iff {code other : ExitCode} : code.number = other.number ↔ code = other := by
  cases code <;> cases other <;> decide

theorem code_mem (options : Options) (world : World) :
    (options.run world).code.number ∈ [0, 1, 3, 5, 6, 9, 10] := by
  cases hcomposed : (options.compose world).result with
  | error reason =>
      have hmem := options.endsIn_compose world reason hcomposed
      have hrun : (options.run world).code = reason := by simp only [run, hcomposed]
      rw [hrun]
      revert hmem
      cases reason <;> decide
  | ok composed =>
      have hmem := options.code_finish_mem world.tree composed.1 composed.2
      rw [(run_of_ok hcomposed).2]
      revert hmem
      cases codeOf (options.finish world.tree composed.1 composed.2).2.result <;> decide

theorem code_eq_noRepository_iff :
    (options.run world).code = .noRepository ↔
      ∃ settings template, options.Loads world settings template ∧
        options.source = .git ∧ IsOutside world.tree settings.workspace := by
  rw [code_run_eq_iff_of_early (by decide)]
  constructor
  · rintro (h | ⟨settings, template, hloads, h | ⟨messages, _, h⟩⟩)
    · exact absurd (options.endsIn_load world _ h) (by decide)
    · exact ⟨settings, template, hloads, gather_eq_noRepository_iff.mp h⟩
    · exact absurd (options.endsIn_render world _ _ h) (by decide)
  · rintro ⟨settings, template, hloads, houtside⟩
    exact .inr ⟨settings, template, hloads, .inl (gather_eq_noRepository_iff.mpr houtside)⟩

theorem code_eq_configuration_iff :
    (options.run world).code = .configuration ↔
      options.Misconfigured world ∨
        ∃ settings template, options.Loads world settings template ∧
          (options.source = .gitHub ∧ IsNameless settings ∨
            ∃ messages error, options.Gathers world settings messages ∧
              Release.generate (options.draftOf settings template messages) options.order
                world.today = .error (.categories error)) := by
  rw [code_run_eq_iff_of_early (by decide), load_eq_configuration_iff]
  refine or_congr Iff.rfl ?_
  constructor
  · rintro ⟨settings, template, hloads, h | ⟨messages, hgathers, h⟩⟩
    · exact ⟨settings, template, hloads, .inl (gather_eq_configuration_iff.mp h)⟩
    · obtain ⟨error, hgenerate⟩ := render_eq_configuration_iff.mp h
      exact ⟨settings, template, hloads, .inr ⟨messages, error, hgathers, hgenerate⟩⟩
  · rintro ⟨settings, template, hloads, h | ⟨messages, error, hgathers, hgenerate⟩⟩
    · exact ⟨settings, template, hloads, .inl (gather_eq_configuration_iff.mpr h)⟩
    · refine ⟨settings, template, hloads, .inr ⟨messages, hgathers, ?_⟩⟩
      exact render_eq_configuration_iff.mpr ⟨error, hgenerate⟩

theorem code_eq_history_iff :
    (options.run world).code = .history ↔
      ∃ settings template, options.Loads world settings template ∧
        options.SourceFails world settings := by
  rw [code_run_eq_iff_of_early (by decide)]
  constructor
  · rintro (h | ⟨settings, template, hloads, h | ⟨messages, _, h⟩⟩)
    · exact absurd (options.endsIn_load world _ h) (by decide)
    · exact ⟨settings, template, hloads, gather_eq_history_iff.mp h⟩
    · exact absurd (options.endsIn_render world _ _ h) (by decide)
  · rintro ⟨settings, template, hloads, hfails⟩
    exact .inr ⟨settings, template, hloads, .inl (gather_eq_history_iff.mpr hfails)⟩

theorem code_eq_template_iff :
    (options.run world).code = .template ↔
      ∃ settings template messages error, options.Loads world settings template ∧
        options.Gathers world settings messages ∧
          Release.generate (options.draftOf settings template messages) options.order world.today =
            .error (.template error) := by
  rw [code_run_eq_iff_of_early (by decide)]
  constructor
  · rintro (h | ⟨settings, template, hloads, h | ⟨messages, hgathers, h⟩⟩)
    · exact absurd (options.endsIn_load world _ h) (by decide)
    · exact absurd (options.endsIn_gather world _ _ h) (by decide)
    · obtain ⟨error, hgenerate⟩ := render_eq_template_iff.mp h
      exact ⟨settings, template, messages, error, hloads, hgathers, hgenerate⟩
  · rintro ⟨settings, template, messages, error, hloads, hgathers, hgenerate⟩
    refine .inr ⟨settings, template, hloads, .inr ⟨messages, hgathers, ?_⟩⟩
    exact render_eq_template_iff.mpr ⟨error, hgenerate⟩

theorem code_eq_writing_iff :
    (options.run world).code = .writing ↔
      ∃ settings notes fault path, options.Composes world settings notes ∧
        options.isDryRun = false ∧
          (ChangelogFile.prepend world.tree settings.changelogPath notes).2 =
            .error (.refused fault path) := by
  rw [code_run_eq_iff_of_late (.inr rfl)]
  constructor
  · rintro ⟨settings, notes, hcomposes, h⟩
    obtain ⟨hwrites, fault, path, hrefused⟩ := code_finish_eq_writing_iff.mp h
    exact ⟨settings, notes, fault, path, hcomposes, hwrites, hrefused⟩
  · rintro ⟨settings, notes, fault, path, hcomposes, hwrites, hrefused⟩
    refine ⟨settings, notes, hcomposes, ?_⟩
    exact code_finish_eq_writing_iff.mpr ⟨hwrites, fault, path, hrefused⟩

theorem code_eq_success_iff :
    (options.run world).code = .success ↔
      ∃ settings notes, options.Composes world settings notes ∧
        if options.isDryRun then Utf8.obstacle? notes = none
        else (ChangelogFile.prepend world.tree settings.changelogPath notes).2 = .ok () ∧
          Utf8.obstacle? settings.changelogPath.text = none := by
  rw [code_run_eq_iff_of_late (.inl rfl)]
  simp only [code_finish_eq_success_iff]

theorem tree_run
    (h : options.isDryRun ∨ ¬ ∃ settings notes, options.Composes world settings notes) :
    (options.run world).tree = world.tree := by
  cases hcomposed : (options.compose world).result with
  | error code => exact run_of_error hcomposed
  | ok composed =>
      obtain ⟨settings, notes⟩ := composed
      rw [(run_of_ok hcomposed).1]
      obtain hdry | hnone := h
      · simp only [finish, hdry, if_true]
      · exact absurd ⟨settings, notes, compose_eq_ok_iff.mp hcomposed⟩ hnone

end Options

/-- Every run is a pipeline: it ends with the code of its first failing stage, and nothing after
that stage happens. -/
theorem stopsAtFirstFailure {arguments : List Text} {world : World} {options : Options}
    (hread : Invocation.read world.tree arguments = .run options) :
    options.StopsAtFirstFailure world (invoke arguments world) := by
  rw [invoke_of_run hread]
  exact {
    course := ⟨options.run world, options.course_run world, rfl⟩
    noRepository := (@Options.number_eq_iff _ .noRepository).trans Options.code_eq_noRepository_iff
    configuration :=
      (@Options.number_eq_iff _ .configuration).trans Options.code_eq_configuration_iff
    source := (@Options.number_eq_iff _ .history).trans Options.code_eq_history_iff
    template := (@Options.number_eq_iff _ .template).trans Options.code_eq_template_iff
    writing := (@Options.number_eq_iff _ .writing).trans Options.code_eq_writing_iff
    success := (@Options.number_eq_iff _ .success).trans Options.code_eq_success_iff
    others := options.code_mem world
    asksNothing := fun h =>
      Options.calls_outcome_of_not_loads (h.elim Options.Misconfigured.not_loads id)
    asksNoGitOutside := fun _ _ => Options.gitCalls_of_isOutside
    asksNoServerNameless := fun _ _ => Options.requests_of_isNameless
    asksNoServer := Options.requests_of_git
    asksNoGit := Options.gitCalls_of_gitHub
    keepsTree := Options.tree_run }

/-- Git does not know the start of the range: the run ends there, and no file has changed. -/
theorem stopsAtFirstFailure_unknown_start :
    let arguments := ["--version-name".text, "1.1.0".text, "--from".text, "v1.0.0".text]
    let options : Options :=
      { version := "1.1.0".text, fromRef := some "v1.0.0".text, toRef := "HEAD".text
        source := .git, mapping := none, template := none, output := none, workspace := none
        order := .firstSeen, isDryRun := false, isVerbose := false }
    let world : World :=
      { tree := ⟨[([".git".text], .folder)], [], by decide⟩
        environment := []
        git := [.ran 128 [] (Utf8.encodeChars "fatal: bad revision\n".toList)]
        server := []
        today := ⟨2024, 3, 5, by decide, by decide, by decide⟩
        elapsed := .zero false }
    Invocation.read world.tree arguments = .run options ∧
      (invoke arguments world).code.number = 6 ∧
      options.StopsAtFirstFailure world (invoke arguments world) := by
  intro arguments options world
  have hread : Invocation.read world.tree arguments = .run options := rfl
  have hcode : (invoke arguments world).code.number = 6 := by decide +kernel
  exact ⟨hread, hcode, stopsAtFirstFailure hread⟩

end ReleaseNotes.CommandLine
