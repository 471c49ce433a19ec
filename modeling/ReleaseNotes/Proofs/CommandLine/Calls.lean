import ReleaseNotes.Proofs.CommandLine.DryRun
import ReleaseNotes.Proofs.CommandLine.FromGit
import ReleaseNotes.Proofs.CommandLine.FromServer

namespace ReleaseNotes.CommandLine

namespace Options

/-! How the second stage ends, whichever source the commits come from. -/

variable {options : Options} {world : World} {settings : Settings}

/-- The messages that a run collects. -/
def Gathers (options : Options) (world : World) (settings : Settings) (messages : List Json) :
    Prop :=
  match options.source with
  | .git => IsInside world.tree settings.workspace ∧ GitGathers options world messages
  | .gitHub => ∃ repository, IsHosted settings repository ∧
      ServerGathers options world (clientOf settings repository) messages

/-- The source of the commits fails. -/
def SourceFails (options : Options) (world : World) (settings : Settings) : Prop :=
  match options.source with
  | .git => IsInside world.tree settings.workspace ∧ GitFails options world
  | .gitHub => ∃ repository, IsHosted settings repository ∧
      ServerFails options world (clientOf settings repository)

theorem countText_ok (count : Nat) : (countText count).result = .ok () := by
  unfold countText
  split
  · exact Stage.print_of_encodable rfl
  · refine Stage.print_of_encodable ?_
    simp only [Text.ofNat, Text.plural, Utf8.obstacle?_append_eq_none_iff, Utf8.obstacle?_ofChars,
      Utf8.obstacle?_text, true_and]
    split <;> rfl

theorem result_gather :
    (options.gather world settings).result = (options.collect world settings).result := by
  unfold gather
  rw [Stage.bind_of_ok (Stage.header_ok 2 _)]
  cases hcollect : (options.collect world settings).result with
  | error code => rw [Stage.bind_of_error hcollect]
  | ok messages =>
      rw [Stage.bind_of_ok hcollect, Stage.bind_of_ok (countText_ok _)]
      rfl

theorem gather_eq_ok_iff {messages : List Json} :
    (options.gather world settings).result = .ok messages ↔
      options.Gathers world settings messages := by
  rw [result_gather, collect, Gathers]
  cases options.source with
  | git => exact collectFromGit_eq_ok_iff
  | gitHub =>
      have hresult : (.ok messages : Except ExitCode (List Json)) ≠ .error .unexpected := by simp
      simp [collectFromServer_iff hresult, fetch_eq_ok_iff]

theorem gather_eq_history_iff :
    (options.gather world settings).result = .error .history ↔
      options.SourceFails world settings := by
  rw [result_gather, collect, SourceFails]
  cases options.source with
  | git => exact collectFromGit_eq_history_iff
  | gitHub =>
      have hresult : (.error .history : Except ExitCode (List Json)) ≠ .error .unexpected := by
        simp
      simp [collectFromServer_iff hresult, fetch_eq_history_iff]

theorem gather_eq_noRepository_iff :
    (options.gather world settings).result = .error .noRepository ↔
      options.source = .git ∧ IsOutside world.tree settings.workspace := by
  rw [result_gather, collect]
  cases options.source with
  | git => simp [collectFromGit_eq_noRepository_iff]
  | gitHub =>
      have hcodes := options.endsIn_collectFromServer world settings .noRepository
      simpa using hcodes

theorem gather_eq_configuration_iff :
    (options.gather world settings).result = .error .configuration ↔
      options.source = .gitHub ∧ IsNameless settings := by
  rw [result_gather, collect]
  cases options.source with
  | git =>
      have hcodes := options.endsIn_collectFromGit world settings .configuration
      simpa using hcodes
  | gitHub =>
      have hresult : (.error .configuration : Except ExitCode (List Json)) ≠ .error .unexpected := by
        simp
      rw [collectFromServer_iff hresult]
      constructor
      · rintro (⟨h, _⟩ | ⟨repository, _, h⟩)
        · exact ⟨rfl, h⟩
        · exact absurd (options.endsIn_fetch world _ _ h) (by decide)
      · rintro ⟨_, h⟩
        exact .inl ⟨h, rfl⟩

end Options

/-!
Whom a run asks. Git and the server are only asked for the commits, each only by the source that is
chosen.
-/

namespace Stage

def AsksNoServer (stage : Stage α) : Prop :=
  stage.transcript.requests = []

def AsksNoGit (stage : Stage α) : Prop :=
  stage.transcript.gitCalls = []

def SameCalls (stage : Stage α) (other : Stage β) : Prop :=
  stage.transcript.gitCalls = other.transcript.gitCalls ∧
    stage.transcript.requests = other.transcript.requests

theorem asksNoServer_bind {stage : Stage α} {next : α → Stage β} (h : stage.AsksNoServer)
    (hnext : ∀ a, (next a).AsksNoServer) : (stage >>= next).AsksNoServer :=
  calls_bind_eq_nil (fun _ _ => rfl) h hnext

theorem asksNoGit_bind {stage : Stage α} {next : α → Stage β} (h : stage.AsksNoGit)
    (hnext : ∀ a, (next a).AsksNoGit) : (stage >>= next).AsksNoGit :=
  calls_bind_eq_nil (fun _ _ => rfl) h hnext

theorem sameCalls_of_asksNothing {stage : Stage α} {next : α → Stage β} {a : α}
    (h : stage.AsksNothing) (hstage : stage.result = .ok a) :
    (stage >>= next).SameCalls (next a) := by
  rw [bind_eq_of_ok hstage]
  refine ⟨?_, ?_⟩
  · show stage.transcript.gitCalls ++ (next a).transcript.gitCalls = _
    rw [h.1, List.nil_append]
  · show stage.transcript.requests ++ (next a).transcript.requests = _
    rw [h.2, List.nil_append]

theorem sameCalls_of_silent {stage : Stage α} {next : α → Stage β}
    (hnext : ∀ a, (next a).AsksNothing) : (stage >>= next).SameCalls stage := by
  show (stage.andThen next).SameCalls stage
  unfold andThen
  cases stage.result with
  | error code => exact ⟨rfl, rfl⟩
  | ok a =>
      refine ⟨?_, ?_⟩
      · show stage.transcript.gitCalls ++ (next a).transcript.gitCalls = _
        rw [(hnext a).1, List.append_nil]
      · show stage.transcript.requests ++ (next a).transcript.requests = _
        rw [(hnext a).2, List.append_nil]

theorem SameCalls.trans {stage : Stage α} {other : Stage β} {third : Stage γ}
    (h : stage.SameCalls other) (hother : other.SameCalls third) : stage.SameCalls third :=
  ⟨h.1.trans hother.1, h.2.trans hother.2⟩

theorem asksNothing_header (number : Nat) (title : String) : (header number title).AsksNothing :=
  asksNothing_bind (asksNothing_print _) fun _ =>
    asksNothing_bind (asksNothing_print _) fun _ => asksNothing_print _

theorem asksNoServer_ofGit (folder : Location) (outcome : Git.Outcome α) :
    (ofGit folder outcome).AsksNoServer := by
  refine asksNoServer_bind rfl fun _ => asksNoServer_bind rfl fun _ => ?_
  split
  · rfl
  · split <;> rfl

theorem asksNoGit_ofServer (outcome : GitHub.Outcome α) : (ofServer outcome).AsksNoGit := by
  refine asksNoGit_bind rfl fun _ => asksNoGit_bind rfl fun _ => ?_
  split
  · rfl
  · split <;> rfl

end Stage

namespace Options

variable (options : Options) (world : World) (settings : Settings)

theorem asksNothing_loadFailure (error : Settings.LoadError) :
    (loadFailure error : Stage α).AsksNothing := by
  unfold loadFailure
  split <;> exact ⟨rfl, rfl⟩

theorem asksNothing_load : (options.load world).AsksNothing := by
  refine Stage.asksNothing_bind (Stage.asksNothing_header _ _) fun _ => ?_
  refine Stage.asksNothing_bind ?settings fun settings => ?_
  case settings =>
    refine Stage.asksNothing_bind ⟨rfl, rfl⟩ fun _ => ?_
    split
    · exact asksNothing_loadFailure _
    · exact ⟨rfl, rfl⟩
  refine Stage.asksNothing_bind ?template fun _ => ?_
  case template =>
    refine Stage.asksNothing_bind ⟨rfl, rfl⟩ fun _ => ?_
    split
    · exact asksNothing_loadFailure _
    · exact ⟨rfl, rfl⟩
  refine Stage.asksNothing_bind (Stage.asksNothing_print _) fun _ => ?_
  refine Stage.asksNothing_bind (Stage.asksNothing_print _) fun _ => ?_
  exact Stage.asksNothing_bind (Stage.asksNothing_print _) fun _ => ⟨rfl, rfl⟩

theorem asksNoServer_collectFromGit : (options.collectFromGit world settings).AsksNoServer := by
  unfold collectFromGit
  split
  · rfl
  · rfl
  · refine Stage.asksNoServer_bind (Stage.asksNothing_print _).2 fun _ => ?_
    refine Stage.asksNoServer_bind ?base fun _ => ?_
    case base =>
      unfold gitBase
      split
      · rfl
      · exact Stage.asksNoServer_ofGit _ _
    refine Stage.asksNoServer_bind (Stage.asksNothing_print _).2 fun _ => ?_
    refine Stage.asksNoServer_bind (Stage.asksNothing_print _).2 fun _ => ?_
    refine Stage.asksNoServer_bind (Stage.asksNoServer_ofGit _ _) fun _ => ?_
    exact Stage.asksNoServer_bind (Stage.asksNothing_print _).2 fun _ => rfl

theorem asksNoGit_serverCommits (client : GitHub.Client) (base : Option Json)
    (responses : List GitHub.Response) :
    (options.serverCommits client base responses).AsksNoGit := by
  unfold serverCommits
  split
  · exact Stage.asksNoGit_bind (Stage.asksNothing_print _).1 fun _ =>
      Stage.asksNoGit_bind (Stage.asksNoGit_ofServer _) fun _ => rfl
  · exact Stage.asksNoGit_bind (Stage.asksNothing_print _).1 fun _ =>
      Stage.asksNoGit_bind (Stage.asksNoGit_ofServer _) fun _ => rfl

theorem asksNoGit_collectFromServer :
    (options.collectFromServer world settings).AsksNoGit := by
  unfold collectFromServer
  split
  · rfl
  · refine Stage.asksNoGit_bind (Stage.asksNothing_print _).1 fun _ => ?_
    refine Stage.asksNoGit_bind (Stage.asksNothing_print _).1 fun _ => ?_
    refine Stage.asksNoGit_bind ?base fun _ => ?_
    case base =>
      unfold serverBase
      split
      · rfl
      · exact Stage.asksNoGit_ofServer _
    refine Stage.asksNoGit_bind (options.asksNoGit_serverCommits _ _ _) fun _ => ?_
    exact Stage.asksNoGit_bind (Stage.asksNothing_print _).1 fun _ => rfl

variable {options world settings}

theorem asksNothing_collectFromGit (h : IsOutside world.tree settings.workspace) :
    (options.collectFromGit world settings).AsksNothing := by
  unfold collectFromGit
  rw [repositoryOf_eq_none_iff.mpr h]
  exact ⟨rfl, rfl⟩

theorem asksNothing_collectFromServer (h : IsNameless settings) :
    (options.collectFromServer world settings).AsksNothing := by
  unfold collectFromServer
  have hfilter : settings.repository.filter (· ≠ []) = none := by
    obtain h | h := h <;> rw [h] <;> rfl
  simp only [hfilter]
  exact ⟨rfl, rfl⟩

theorem asksNothing_countText (count : Nat) : (countText count).AsksNothing := by
  unfold countText
  split <;> exact Stage.asksNothing_print _

theorem sameCalls_gather :
    (options.gather world settings).SameCalls (options.collect world settings) := by
  unfold gather
  refine (Stage.sameCalls_of_asksNothing (Stage.asksNothing_header _ _)
    (Stage.header_ok 2 _)).trans (Stage.sameCalls_of_silent fun messages => ?_)
  exact Stage.asksNothing_bind (asksNothing_countText _) fun _ => ⟨rfl, rfl⟩

theorem asksNothing_render (draft : Release.Draft) : (options.render world draft).AsksNothing := by
  refine Stage.asksNothing_bind (Stage.asksNothing_header _ _) fun _ => ?_
  refine Stage.asksNothing_bind ⟨rfl, rfl⟩ fun _ => ?_
  split
  · unfold renderFailure
    split <;> exact ⟨rfl, rfl⟩
  · exact Stage.asksNothing_bind (Stage.asksNothing_print _) fun _ => ⟨rfl, rfl⟩

theorem sameCalls_compose {template : Text} (h : options.Loads world settings template) :
    (options.compose world).SameCalls (options.collect world settings) := by
  unfold compose
  refine (Stage.sameCalls_of_asksNothing (options.asksNothing_load world)
    (load_eq_ok_iff.mpr h)).trans ?_
  refine Stage.SameCalls.trans (Stage.sameCalls_of_silent fun messages => ?_) sameCalls_gather
  refine Stage.asksNothing_bind (asksNothing_render _) fun _ => ?_
  exact Stage.asksNothing_bind (Stage.asksNothing_header _ _) fun _ => ⟨rfl, rfl⟩

theorem asksNothing_compose (h : ¬ ∃ settings template, options.Loads world settings template) :
    (options.compose world).AsksNothing := by
  show ((options.load world).andThen _).AsksNothing
  unfold Stage.andThen
  cases hload : (options.load world).result with
  | error code => exact options.asksNothing_load world
  | ok loaded => exact absurd ⟨loaded.1, loaded.2, load_eq_ok_iff.mp hload⟩ h

/-- What a run asks for, once everything is loaded, is what its source asks for. -/
theorem calls_outcome {template : Text} (h : options.Loads world settings template) :
    (options.outcome world).gitCalls = (options.collect world settings).transcript.gitCalls ∧
      (options.outcome world).requests = (options.collect world settings).transcript.requests :=
  ⟨(options.calls_run world).1.trans (sameCalls_compose h).1,
    (options.calls_run world).2.trans (sameCalls_compose h).2⟩

theorem calls_outcome_of_not_loads
    (h : ¬ ∃ settings template, options.Loads world settings template) :
    (options.outcome world).gitCalls = [] ∧ (options.outcome world).requests = [] :=
  ⟨(options.calls_run world).1.trans (asksNothing_compose h).1,
    (options.calls_run world).2.trans (asksNothing_compose h).2⟩

theorem requests_of_git (h : options.source = .git) : (options.outcome world).requests = [] := by
  by_cases hloads : ∃ settings template, options.Loads world settings template
  · obtain ⟨settings, template, hloads⟩ := hloads
    rw [(calls_outcome hloads).2, collect, h]
    exact options.asksNoServer_collectFromGit world settings
  · exact (calls_outcome_of_not_loads hloads).2

theorem gitCalls_of_gitHub (h : options.source = .gitHub) :
    (options.outcome world).gitCalls = [] := by
  by_cases hloads : ∃ settings template, options.Loads world settings template
  · obtain ⟨settings, template, hloads⟩ := hloads
    rw [(calls_outcome hloads).1, collect, h]
    exact options.asksNoGit_collectFromServer world settings
  · exact (calls_outcome_of_not_loads hloads).1

theorem gitCalls_of_isOutside {template : Text} (h : options.Loads world settings template)
    (hsource : options.source = .git) (houtside : IsOutside world.tree settings.workspace) :
    (options.outcome world).gitCalls = [] := by
  rw [(calls_outcome h).1, collect, hsource]
  exact (asksNothing_collectFromGit houtside).1

theorem requests_of_isNameless {template : Text} (h : options.Loads world settings template)
    (hsource : options.source = .gitHub) (hnameless : IsNameless settings) :
    (options.outcome world).requests = [] := by
  rw [(calls_outcome h).2, collect, hsource]
  exact (asksNothing_collectFromServer hnameless).2

end Options

end ReleaseNotes.CommandLine
