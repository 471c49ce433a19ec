import ReleaseNotes.Proofs.CommandLine.Loading
import ReleaseNotes.Proofs.History.Repository

namespace ReleaseNotes.CommandLine

/-! How collecting from git ends, in terms of the answers that git gives. -/

namespace Options

variable {options : Options} {world : World} {settings : Settings}

/-- Neither the workspace nor a folder around it holds an entry for Git, and all of them can be asked
for one. -/
def IsOutside (tree : FileTree) (workspace : Path) : Prop :=
  ∃ place, tree.resolve workspace = .ok place ∧ ¬ tree.IsOutOfReach (".git".text :: place) ∧
    ∀ folder, folder <:+ place → ¬ tree.Holds folder ".git".text

theorem repositoryOf_eq_none_iff {tree : FileTree} {workspace : Path} :
    Git.repositoryOf tree workspace = .ok none ↔ IsOutside tree workspace := by
  simp only [Git.repositoryOf_eq_ok_iff, Git.isNearest_none_iff, IsOutside]

/-- The search for the tag before the release. -/
def tagSearch (options : Options) (world : World) : Git.Outcome (Option Text) :=
  Git.latestTag (Release.tagNames options.version) options.toRef world.git

/-- Where the range starts, and the answers of git that are left. -/
inductive GitStart (options : Options) (world : World) : Option Text → List Git.Answer → Prop
  | given {base : Text} :
      options.givenStart = some base → GitStart options world (some base) world.git
  | found {base : Option Text} :
      options.givenStart = none → (options.tagSearch world).result = .ok base →
      GitStart options world base (options.tagSearch world).answers

/-- The repository that is asked is the nearest one around the workspace, if its place can be
printed. -/
def IsAsked (tree : FileTree) (workspace : Path) (folder : Location) : Prop :=
  (∃ place, tree.resolve workspace = .ok place ∧ ¬ tree.IsOutOfReach (".git".text :: place) ∧
      Git.IsNearest tree place (some folder)) ∧
    Utf8.obstacle? (FileTree.placeText folder) = none

theorem isAsked_iff {tree : FileTree} {workspace : Path} {folder : Location} :
    IsAsked tree workspace folder ↔
      Git.repositoryOf tree workspace = .ok (some folder) ∧
        Utf8.obstacle? (FileTree.placeText folder) = none := by
  rw [Git.repositoryOf_eq_ok_iff, IsAsked]

/-- There is a repository that can be asked. -/
def IsInside (tree : FileTree) (workspace : Path) : Prop :=
  ∃ folder, IsAsked tree workspace folder

/-- The messages that git gives. -/
inductive GitGathers (options : Options) (world : World) : List Json → Prop
  | commits {base : Option Text} {answers : List Git.Answer} {messages : List Text} :
      GitStart options world base answers →
      Utf8.obstacle? (rangeText base options.toRef) = none →
      (Git.commits (rangeText base options.toRef) true answers).result = .ok messages →
      GitGathers options world (messages.map .string)

/-- Git fails, and not just because it cannot be handed a command. -/
inductive GitFails (options : Options) (world : World) : Prop
  | tag {error : Git.Error} :
      options.givenStart = none → (options.tagSearch world).result = .error error →
      error.isUnexpected = false → GitFails options world
  | commits {base : Option Text} {answers : List Git.Answer} {error : Git.Error} :
      GitStart options world base answers →
      Utf8.obstacle? (rangeText base options.toRef) = none →
      (Git.commits (rangeText base options.toRef) true answers).result = .error error →
      error.isUnexpected = false → GitFails options world

theorem gitBase_eq (folder : Location) :
    options.gitBase world folder =
      Stage.startOr options.givenStart (fun base => (some base, world.git))
        (.ofGit folder (options.tagSearch world)) := by
  unfold gitBase Stage.startOr
  cases options.givenStart <;> rfl

theorem gitBase_eq_ok_iff {folder : Location} {base : Option Text} {answers : List Git.Answer} :
    (options.gitBase world folder).result = .ok (base, answers) ↔
      GitStart options world base answers := by
  rw [gitBase_eq, Stage.startOr_eq_ok_iff, Stage.result_ofGit, Stage.answered_eq_ok_iff]
  constructor
  · rintro (⟨base, hgiven, heq⟩ | ⟨hnone, hfound, rfl⟩)
    · cases heq
      exact .given hgiven
    · exact .found hnone hfound
  · rintro (hgiven | ⟨hnone, hfound⟩)
    · exact .inl ⟨_, hgiven, rfl⟩
    · exact .inr ⟨hnone, hfound, rfl⟩

theorem gitBase_eq_history_iff {folder : Location} :
    (options.gitBase world folder).result = .error .history ↔
      options.givenStart = none ∧ ∃ error, (options.tagSearch world).result = .error error ∧
        error.isUnexpected = false := by
  rw [gitBase_eq, Stage.startOr_eq_error_iff, Stage.result_ofGit, Stage.answered_eq_history_iff]

/-- What follows once it is known where the range starts. -/
theorem ranged_iff {folder : Location} {base : Option Text} {answers : List Git.Answer}
    {result : Except ExitCode (List Json)} (hresult : result ≠ .error .unexpected) :
    (do
      Stage.detail ("Revision range: ".text ++ rangeText base options.toRef)
      Stage.progress "Reading commit history"
      let (messages, _) ← Stage.ofGit folder
        (Git.commits (rangeText base options.toRef) true answers)
      Stage.progressDone world.elapsed
      Stage.done (messages.map Json.string)).result = result ↔
        Utf8.obstacle? (rangeText base options.toRef) = none ∧
          ((∃ messages, (Git.commits (rangeText base options.toRef) true answers).result =
              .ok messages ∧ .ok (messages.map Json.string) = result) ∨
            ∃ error, (Git.commits (rangeText base options.toRef) true answers).result =
              .error error ∧ error.isUnexpected = false ∧ .error .history = result) := by
  rw [Stage.detail, Stage.bind_print_iff hresult, Stage.bind_of_ok (Stage.progress_ok _)]
  simp only [Utf8.obstacle?_append_eq_none_iff, Utf8.obstacle?_text, true_and]
  refine and_congr Iff.rfl (Stage.bind_answered_iff (Stage.result_ofGit folder _) ?_ hresult)
  intro messages
  rw [Stage.bind_of_ok (Stage.progressDone_ok _)]
  rfl

theorem gitCommits_eq_ok_iff {folder : Location} {messages : List Json} :
    (options.gitCommits world folder).result = .ok messages ↔
      Utf8.obstacle? (FileTree.placeText folder) = none ∧ options.GitGathers world messages := by
  unfold gitCommits
  rw [Stage.success, Stage.bind_print_iff (by simp), Stage.bind_eq_ok_iff]
  simp only [Utf8.obstacle?_append_eq_none_iff, Utf8.obstacle?_text, true_and]
  refine and_congr Iff.rfl ?_
  constructor
  · rintro ⟨⟨base, answers⟩, hbase, h⟩
    obtain ⟨hrange, ⟨found, hfound, heq⟩ | ⟨error, -, -, heq⟩⟩ := (ranged_iff (by simp)).mp h
    · cases heq
      exact .commits (gitBase_eq_ok_iff.mp hbase) hrange hfound
    · cases heq
  · rintro ⟨hstart, hrange, hfound⟩
    refine ⟨_, gitBase_eq_ok_iff.mpr hstart, (ranged_iff (by simp)).mpr ⟨hrange, .inl ?_⟩⟩
    exact ⟨_, hfound, rfl⟩

theorem gitCommits_eq_history_iff {folder : Location} :
    (options.gitCommits world folder).result = .error .history ↔
      Utf8.obstacle? (FileTree.placeText folder) = none ∧ options.GitFails world := by
  unfold gitCommits
  rw [Stage.success, Stage.bind_print_iff (by simp), Stage.bind_eq_error_iff,
    gitBase_eq_history_iff]
  simp only [Utf8.obstacle?_append_eq_none_iff, Utf8.obstacle?_text, true_and]
  refine and_congr Iff.rfl ?_
  constructor
  · rintro (⟨hstart, error, herror, hexpected⟩ | ⟨⟨base, answers⟩, hbase, h⟩)
    · exact .tag hstart herror hexpected
    · obtain ⟨hrange, ⟨found, -, heq⟩ | ⟨error, herror, hexpected, -⟩⟩ :=
        (ranged_iff (by simp)).mp h
      · cases heq
      · exact .commits (gitBase_eq_ok_iff.mp hbase) hrange herror hexpected
  · rintro (⟨hstart, herror, hexpected⟩ | ⟨hstart, hrange, herror, hexpected⟩)
    · exact .inl ⟨hstart, _, herror, hexpected⟩
    · refine .inr ⟨_, gitBase_eq_ok_iff.mpr hstart, (ranged_iff (by simp)).mpr ⟨hrange, .inr ?_⟩⟩
      exact ⟨_, herror, hexpected, rfl⟩

theorem collectFromGit_eq_ok_iff {messages : List Json} :
    (options.collectFromGit world settings).result = .ok messages ↔
      IsInside world.tree settings.workspace ∧ GitGathers options world messages := by
  simp only [IsInside, isAsked_iff]
  unfold collectFromGit
  cases Git.repositoryOf world.tree settings.workspace with
  | error error => simp [Stage.unexpected]
  | ok found =>
      cases found with
      | none => simp [Stage.fail]
      | some folder => simp [gitCommits_eq_ok_iff]

theorem collectFromGit_eq_history_iff :
    (options.collectFromGit world settings).result = .error .history ↔
      IsInside world.tree settings.workspace ∧ GitFails options world := by
  simp only [IsInside, isAsked_iff]
  unfold collectFromGit
  cases Git.repositoryOf world.tree settings.workspace with
  | error error => simp [Stage.unexpected]
  | ok found =>
      cases found with
      | none => simp [Stage.fail]
      | some folder => simp [gitCommits_eq_history_iff]

theorem collectFromGit_eq_noRepository_iff :
    (options.collectFromGit world settings).result = .error .noRepository ↔
      IsOutside world.tree settings.workspace := by
  rw [← repositoryOf_eq_none_iff]
  unfold collectFromGit
  cases Git.repositoryOf world.tree settings.workspace with
  | error error => simp [Stage.unexpected]
  | ok found =>
      cases found with
      | none => simp [Stage.fail]
      | some folder =>
          have hcodes := options.endsIn_gitCommits world folder .noRepository
          simpa using hcodes

end Options

end ReleaseNotes.CommandLine
