import ReleaseNotes.Proofs.CommandLine.Loading

namespace ReleaseNotes.CommandLine

/-! How collecting from the server ends, in terms of the responses that it gives. -/

namespace Options

variable {options : Options} {world : World} {settings : Settings}

/-- The settings name a repository on the server, and its name can be printed. -/
structure IsHosted (settings : Settings) (repository : Text) : Prop where
  named : settings.repository = some repository
  notEmpty : repository ≠ []
  printable : Utf8.obstacle? repository = none

def IsNameless (settings : Settings) : Prop :=
  settings.repository = none ∨ settings.repository = some []

def clientOf (settings : Settings) (repository : Text) : GitHub.Client :=
  ⟨repository, settings.token, settings.apiUrl, .float settings.timeout⟩

def hostedTagSearch (options : Options) (world : World) (client : GitHub.Client) :
    GitHub.Outcome (Option Json) :=
  client.latestTag options.toRef (Release.tagNames options.version) world.server

/-- Where the range starts, and the responses of the server that are left. -/
inductive ServerStart (options : Options) (world : World) (client : GitHub.Client) :
    Option Json → List GitHub.Response → Prop
  | given {base : Text} :
      options.givenStart = some base →
      ServerStart options world client (some (.string base)) world.server
  | found {base : Option Json} :
      options.givenStart = none → (options.hostedTagSearch world client).result = .ok base →
      ServerStart options world client base (options.hostedTagSearch world client).responses

/-- A start that is nothing is no start: all commits are listed. -/
def hostedCommits (options : Options) (client : GitHub.Client) (base : Option Json)
    (responses : List GitHub.Response) : GitHub.Outcome (List Json) :=
  match base.filter fun base => !base.isNothing with
  | some base => client.compare base.plain options.toRef responses
  | none => client.list options.toRef responses

/-- What is printed about the range. -/
def shownRange (options : Options) (base : Option Json) : Text :=
  match base.filter fun base => !base.isNothing with
  | some base => base.plain ++ options.toRef
  | none => options.toRef

/-- The messages that the server gives. -/
inductive ServerGathers (options : Options) (world : World) (client : GitHub.Client) :
    List Json → Prop
  | commits {base : Option Json} {responses : List GitHub.Response} {messages : List Json} :
      ServerStart options world client base responses →
      Utf8.obstacle? (options.shownRange base) = none →
      (options.hostedCommits client base responses).result = .ok messages →
      ServerGathers options world client messages

/-- The server fails, and its answers were at least of the right kind. -/
inductive ServerFails (options : Options) (world : World) (client : GitHub.Client) : Prop
  | tag {error : GitHub.Error} :
      options.givenStart = none →
      (options.hostedTagSearch world client).result = .error error →
      error.isUnexpected = false → ServerFails options world client
  | commits {base : Option Json} {responses : List GitHub.Response} {error : GitHub.Error} :
      ServerStart options world client base responses →
      Utf8.obstacle? (options.shownRange base) = none →
      (options.hostedCommits client base responses).result = .error error →
      error.isUnexpected = false → ServerFails options world client

variable {client : GitHub.Client} {base : Option Json} {responses : List GitHub.Response}

theorem serverBase_eq :
    options.serverBase world client =
      Stage.startOr options.givenStart (fun base => (some (.string base), world.server))
        (.ofServer (options.hostedTagSearch world client)) := by
  unfold serverBase Stage.startOr
  cases options.givenStart <;> rfl

theorem serverBase_eq_ok_iff :
    (options.serverBase world client).result = .ok (base, responses) ↔
      ServerStart options world client base responses := by
  rw [serverBase_eq, Stage.startOr_eq_ok_iff, Stage.result_ofServer, Stage.answered_eq_ok_iff]
  constructor
  · rintro (⟨base, hgiven, heq⟩ | ⟨hnone, hfound, rfl⟩)
    · cases heq
      exact .given hgiven
    · exact .found hnone hfound
  · rintro (hgiven | ⟨hnone, hfound⟩)
    · exact .inl ⟨_, hgiven, rfl⟩
    · exact .inr ⟨hnone, hfound, rfl⟩

theorem serverBase_eq_history_iff :
    (options.serverBase world client).result = .error .history ↔
      options.givenStart = none ∧
        ∃ error, (options.hostedTagSearch world client).result = .error error ∧
          error.isUnexpected = false := by
  rw [serverBase_eq, Stage.startOr_eq_error_iff, Stage.result_ofServer,
    Stage.answered_eq_history_iff]

/-- A line about the range, and then the commits. -/
theorem described_iff {line : Text} {outcome : GitHub.Outcome (List Json)}
    {result : Except ExitCode (List Json)} (hresult : result ≠ .error .unexpected) :
    (do
      Stage.detail line
      return (← Stage.ofServer outcome).1).result = result ↔
        Utf8.obstacle? line = none ∧
          ((∃ messages, outcome.result = .ok messages ∧ .ok messages = result) ∨
            ∃ error, outcome.result = .error error ∧ error.isUnexpected = false ∧
              .error .history = result) := by
  rw [Stage.detail, Stage.bind_print_iff hresult]
  simp only [Utf8.obstacle?_append_eq_none_iff, Utf8.obstacle?_text, true_and]
  exact and_congr Iff.rfl
    (Stage.bind_answered_iff (Stage.result_ofServer outcome) (fun _ => rfl) hresult)

theorem serverCommits_iff {result : Except ExitCode (List Json)}
    (hresult : result ≠ .error .unexpected) :
    (options.serverCommits client base responses).result = result ↔
      Utf8.obstacle? (options.shownRange base) = none ∧
        ((∃ messages, (options.hostedCommits client base responses).result = .ok messages ∧
            .ok messages = result) ∨
          ∃ error, (options.hostedCommits client base responses).result = .error error ∧
            error.isUnexpected = false ∧ .error .history = result) := by
  unfold serverCommits shownRange hostedCommits
  cases base.filter fun base => !base.isNothing with
  | some base =>
      rw [described_iff hresult]
      simp only [Utf8.obstacle?_append_eq_none_iff, Utf8.obstacle?_text, true_and, and_true]
  | none =>
      rw [described_iff hresult]
      simp only [Utf8.obstacle?_append_eq_none_iff, Utf8.obstacle?_text, true_and]

/-- What the server is asked for once it is known which repository is meant. -/
def fetch (options : Options) (world : World) (client : GitHub.Client) : Stage (List Json) := do
  let (base, responses) ← options.serverBase world client
  let messages ← options.serverCommits client base responses
  Stage.progressDone world.elapsed
  Stage.done messages

theorem fetch_eq_ok_iff {messages : List Json} :
    (options.fetch world client).result = .ok messages ↔
      ServerGathers options world client messages := by
  unfold fetch
  rw [Stage.bind_eq_ok_iff]
  constructor
  · rintro ⟨⟨base, responses⟩, hbase, h⟩
    obtain ⟨found, hfound, h⟩ := Stage.bind_eq_ok_iff.mp h
    rw [Stage.bind_of_ok (Stage.progressDone_ok _)] at h
    cases h
    obtain ⟨hrange, ⟨_, hcommits, heq⟩ | ⟨_, _, _, heq⟩⟩ := (serverCommits_iff (by simp)).mp hfound
    · cases heq
      exact .commits (serverBase_eq_ok_iff.mp hbase) hrange hcommits
    · cases heq
  · rintro ⟨hstart, hrange, hcommits⟩
    refine ⟨_, serverBase_eq_ok_iff.mpr hstart, Stage.bind_eq_ok_iff.mpr ⟨messages, ?_, ?_⟩⟩
    · exact (serverCommits_iff (by simp)).mpr ⟨hrange, .inl ⟨_, hcommits, rfl⟩⟩
    · rw [Stage.bind_of_ok (Stage.progressDone_ok _)]
      rfl

theorem fetch_eq_history_iff :
    (options.fetch world client).result = .error .history ↔ ServerFails options world client := by
  unfold fetch
  rw [Stage.bind_eq_error_iff, serverBase_eq_history_iff]
  constructor
  · rintro (⟨hstart, error, herror, hexpected⟩ | ⟨⟨base, responses⟩, hbase, h⟩)
    · exact .tag hstart herror hexpected
    · obtain h | ⟨found, _, h⟩ := Stage.bind_eq_error_iff.mp h
      · obtain ⟨hrange, ⟨_, _, heq⟩ | ⟨error, herror, hexpected, _⟩⟩ :=
          (serverCommits_iff (by simp)).mp h
        · cases heq
        · exact .commits (serverBase_eq_ok_iff.mp hbase) hrange herror hexpected
      · rw [Stage.bind_of_ok (Stage.progressDone_ok _)] at h
        cases h
  · rintro (⟨hstart, herror, hexpected⟩ | ⟨hstart, hrange, herror, hexpected⟩)
    · exact .inl ⟨hstart, _, herror, hexpected⟩
    · refine .inr ⟨_, serverBase_eq_ok_iff.mpr hstart, Stage.bind_eq_error_iff.mpr (.inl ?_)⟩
      exact (serverCommits_iff (by simp)).mpr ⟨hrange, .inr ⟨_, herror, hexpected, rfl⟩⟩

theorem endsIn_fetch (options : Options) (world : World) (client : GitHub.Client) :
    (options.fetch world client).EndsIn [.unexpected, .history] := by
  refine Stage.endsIn_bind (options.endsIn_serverBase world client) fun _ => ?_
  refine Stage.endsIn_bind (options.endsIn_serverCommits client _ _) fun _ => ?_
  exact Stage.endsIn_bind (Stage.endsIn_print (by decide) _) fun _ => Stage.endsIn_done _

theorem collectFromServer_of_named {repository : Text}
    (hnamed : settings.repository = some repository) (hsome : repository ≠ []) :
    options.collectFromServer world settings = (do
      Stage.success ("Using GitHub repository: ".text ++ repository)
      Stage.progress "Fetching commits from GitHub"
      options.fetch world (clientOf settings repository)) := by
  unfold collectFromServer
  have hfilter : settings.repository.filter (· ≠ []) = some repository := by
    rw [hnamed, Option.filter_some, if_pos (by simpa using hsome)]
  simp only [hfilter]
  rfl

theorem collectFromServer_of_nameless (h : IsNameless settings) :
    (options.collectFromServer world settings).result = .error .configuration := by
  unfold collectFromServer
  have hfilter : settings.repository.filter (· ≠ []) = none := by
    obtain h | h := h <;> rw [h] <;> rfl
  simp only [hfilter]
  rfl

theorem IsHosted.not_nameless {repository : Text} (h : IsHosted settings repository) :
    ¬ IsNameless settings := by
  rintro (hnone | hempty)
  · cases h.named.symm.trans hnone
  · cases h.named.symm.trans hempty
    exact h.notEmpty rfl

/-- Unless the settings name no repository, it is the server that has to answer. -/
theorem collectFromServer_iff {result : Except ExitCode (List Json)}
    (hresult : result ≠ .error .unexpected) :
    (options.collectFromServer world settings).result = result ↔
      IsNameless settings ∧ .error .configuration = result ∨
        ∃ repository, IsHosted settings repository ∧
          (options.fetch world (clientOf settings repository)).result = result := by
  by_cases hnameless : IsNameless settings
  · rw [collectFromServer_of_nameless hnameless]
    constructor
    · intro h
      exact .inl ⟨hnameless, h⟩
    · rintro (⟨_, h⟩ | ⟨repository, hhosted, _⟩)
      · exact h
      · exact absurd hnameless hhosted.not_nameless
  · obtain ⟨repository, hnamed⟩ : ∃ repository, settings.repository = some repository :=
      Option.ne_none_iff_exists'.mp fun hnone => hnameless (.inl hnone)
    have hsome : repository ≠ [] := fun hempty => hnameless (.inr (by rw [hnamed, hempty]))
    rw [collectFromServer_of_named hnamed hsome, Stage.success, Stage.bind_print_iff hresult,
      Stage.bind_of_ok (Stage.progress_ok _)]
    simp only [Utf8.obstacle?_append_eq_none_iff, Utf8.obstacle?_text, true_and]
    constructor
    · rintro ⟨hprintable, h⟩
      exact .inr ⟨repository, ⟨hnamed, hsome, hprintable⟩, h⟩
    · rintro (⟨h, _⟩ | ⟨other, hhosted, h⟩)
      · exact absurd h hnameless
      · cases hnamed.symm.trans hhosted.named
        exact ⟨hhosted.printable, h⟩

end Options

end ReleaseNotes.CommandLine
