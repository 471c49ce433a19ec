import ReleaseNotes.Proofs.CommandLine.Stages

namespace ReleaseNotes.CommandLine

/-!
The codes that each stage may end a run with. A stage that hands its value on ends with one of the
codes of its parts.
-/

namespace Stage

variable {codes : List ExitCode}

/-- A stage that ends the run does so with one of these codes. -/
def EndsIn (codes : List ExitCode) (stage : Stage α) : Prop :=
  ∀ code, stage.result = .error code → code ∈ codes

theorem EndsIn.mono {more : List ExitCode} {stage : Stage α} (h : stage.EndsIn codes)
    (hcodes : codes ⊆ more) : stage.EndsIn more :=
  fun code hcode => hcodes (h code hcode)

theorem endsIn_bind {stage : Stage α} {next : α → Stage β} (h : stage.EndsIn codes)
    (hnext : ∀ a, (next a).EndsIn codes) : (stage >>= next).EndsIn codes := by
  intro code hcode
  cases bind_eq_error_iff.mp hcode with
  | inl hfirst => exact h code hfirst
  | inr hsecond =>
      obtain ⟨a, _, hsecond⟩ := hsecond
      exact hnext a code hsecond

theorem endsIn_done (value : α) : (done value).EndsIn codes :=
  fun _ h => nomatch h

theorem endsIn_log (lines : List LogLine) : (log lines).EndsIn codes :=
  fun _ h => nomatch h

theorem endsIn_record (gitCalls : List GitCall) (requests : List GitHub.Request) :
    (record gitCalls requests).EndsIn codes :=
  fun _ h => nomatch h

theorem endsIn_fail {code : ExitCode} (h : code ∈ codes) (message : Text) :
    (fail code message : Stage α).EndsIn codes := by
  intro reason hreason
  cases hreason
  exact h

theorem endsIn_unexpected (h : .unexpected ∈ codes) (message : Text) :
    (unexpected message : Stage α).EndsIn codes := by
  intro reason hreason
  cases hreason
  exact h

theorem endsIn_print (h : .unexpected ∈ codes) (line : Text) : (print line).EndsIn codes := by
  cases hline : Utf8.obstacle? line with
  | none =>
      intro code hcode
      rw [print_of_encodable hline] at hcode
      cases hcode
  | some obstacle =>
      intro code hcode
      rw [print_of_obstacle (by simp [hline])] at hcode
      cases hcode
      exact h

theorem endsIn_header (h : .unexpected ∈ codes) (number : Nat) (title : String) :
    (header number title).EndsIn codes :=
  endsIn_bind (endsIn_print h _) fun _ => endsIn_bind (endsIn_print h _) fun _ => endsIn_print h _

theorem endsIn_ofGit (folder : Location) (outcome : Git.Outcome α) :
    (ofGit folder outcome).EndsIn [.unexpected, .history] := by
  refine endsIn_bind (endsIn_record _ _) fun _ => endsIn_bind (endsIn_log _) fun _ => ?_
  split
  · exact endsIn_done _
  · split
    · exact endsIn_unexpected (by decide) _
    · exact endsIn_fail (by decide) _

theorem endsIn_ofServer (outcome : GitHub.Outcome α) :
    (ofServer outcome).EndsIn [.unexpected, .history] := by
  refine endsIn_bind (endsIn_record _ _) fun _ => endsIn_bind (endsIn_log _) fun _ => ?_
  split
  · exact endsIn_done _
  · split
    · exact endsIn_unexpected (by decide) _
    · exact endsIn_fail (by decide) _

end Stage

namespace Options

variable (options : Options) (world : World) (settings : Settings)

/-! The first stage. -/

theorem endsIn_loadFailure (error : Settings.LoadError) :
    (loadFailure error : Stage α).EndsIn [.unexpected, .configuration] := by
  unfold loadFailure
  split
  · exact Stage.endsIn_fail (by decide) _
  · exact Stage.endsIn_unexpected (by decide) _

theorem endsIn_loadSettings :
    (options.loadSettings world).EndsIn [.unexpected, .configuration] := by
  refine Stage.endsIn_bind (Stage.endsIn_log _) fun _ => ?_
  split
  · exact endsIn_loadFailure _
  · exact Stage.endsIn_done _

theorem endsIn_loadTemplate :
    (loadTemplate world settings).EndsIn [.unexpected, .configuration] := by
  refine Stage.endsIn_bind (Stage.endsIn_log _) fun _ => ?_
  split
  · exact endsIn_loadFailure _
  · exact Stage.endsIn_done _

theorem endsIn_load : (options.load world).EndsIn [.unexpected, .configuration] := by
  refine Stage.endsIn_bind (Stage.endsIn_header (by decide) _ _) fun _ => ?_
  refine Stage.endsIn_bind (options.endsIn_loadSettings world) fun loaded => ?_
  refine Stage.endsIn_bind (endsIn_loadTemplate world loaded) fun _ => ?_
  refine Stage.endsIn_bind (Stage.endsIn_print (by decide) _) fun _ => ?_
  refine Stage.endsIn_bind (Stage.endsIn_print (by decide) _) fun _ => ?_
  refine Stage.endsIn_bind (Stage.endsIn_print (by decide) _) fun _ => ?_
  exact Stage.endsIn_done _

/-! The second stage. -/

theorem endsIn_gitBase (folder : Location) :
    (options.gitBase world folder).EndsIn [.unexpected, .history] := by
  unfold gitBase
  split
  · exact Stage.endsIn_done _
  · exact Stage.endsIn_ofGit folder _

theorem endsIn_gitCommits (folder : Location) :
    (options.gitCommits world folder).EndsIn [.unexpected, .history] := by
  refine Stage.endsIn_bind (Stage.endsIn_print (by decide) _) fun _ => ?_
  refine Stage.endsIn_bind (options.endsIn_gitBase world folder) fun _ => ?_
  refine Stage.endsIn_bind (Stage.endsIn_print (by decide) _) fun _ => ?_
  refine Stage.endsIn_bind (Stage.endsIn_print (by decide) _) fun _ => ?_
  refine Stage.endsIn_bind (Stage.endsIn_ofGit folder _) fun _ => ?_
  refine Stage.endsIn_bind (Stage.endsIn_print (by decide) _) fun _ => ?_
  exact Stage.endsIn_done _

theorem endsIn_collectFromGit :
    (options.collectFromGit world settings).EndsIn [.unexpected, .noRepository, .history] := by
  unfold collectFromGit
  split
  · exact Stage.endsIn_unexpected (by decide) _
  · exact Stage.endsIn_fail (by decide) _
  · exact (options.endsIn_gitCommits world _).mono (by decide)

theorem endsIn_serverBase (client : GitHub.Client) :
    (options.serverBase world client).EndsIn [.unexpected, .history] := by
  unfold serverBase
  split
  · exact Stage.endsIn_done _
  · exact Stage.endsIn_ofServer _

theorem endsIn_serverCommits (client : GitHub.Client) (base : Option Json)
    (responses : List GitHub.Response) :
    (options.serverCommits client base responses).EndsIn [.unexpected, .history] := by
  unfold serverCommits
  split
  · refine Stage.endsIn_bind (Stage.endsIn_print (by decide) _) fun _ => ?_
    exact Stage.endsIn_bind (Stage.endsIn_ofServer _) fun _ => Stage.endsIn_done _
  · refine Stage.endsIn_bind (Stage.endsIn_print (by decide) _) fun _ => ?_
    exact Stage.endsIn_bind (Stage.endsIn_ofServer _) fun _ => Stage.endsIn_done _

theorem endsIn_collectFromServer :
    (options.collectFromServer world settings).EndsIn
      [.unexpected, .configuration, .history] := by
  unfold collectFromServer
  split
  · exact Stage.endsIn_fail (by decide) _
  · refine Stage.endsIn_bind (Stage.endsIn_print (by decide) _) fun _ => ?_
    refine Stage.endsIn_bind (Stage.endsIn_print (by decide) _) fun _ => ?_
    refine Stage.endsIn_bind ((options.endsIn_serverBase world _).mono (by decide)) fun _ => ?_
    refine Stage.endsIn_bind ((options.endsIn_serverCommits _ _ _).mono (by decide)) fun _ => ?_
    refine Stage.endsIn_bind (Stage.endsIn_print (by decide) _) fun _ => ?_
    exact Stage.endsIn_done _

theorem endsIn_collect :
    (options.collect world settings).EndsIn
      [.unexpected, .noRepository, .configuration, .history] := by
  unfold collect
  cases options.source with
  | git => exact (options.endsIn_collectFromGit world settings).mono (by decide)
  | gitHub => exact (options.endsIn_collectFromServer world settings).mono (by decide)

theorem endsIn_countText (count : Nat) : (countText count).EndsIn [.unexpected] := by
  unfold countText
  split
  · exact Stage.endsIn_print (by decide) _
  · exact Stage.endsIn_print (by decide) _

theorem endsIn_gather :
    (options.gather world settings).EndsIn
      [.unexpected, .noRepository, .configuration, .history] := by
  refine Stage.endsIn_bind (Stage.endsIn_header (by decide) _ _) fun _ => ?_
  refine Stage.endsIn_bind (options.endsIn_collect world settings) fun messages => ?_
  refine Stage.endsIn_bind ((endsIn_countText messages.length).mono (by decide)) fun _ => ?_
  exact Stage.endsIn_done _

/-! The third stage, and all that only read. -/

theorem endsIn_renderFailure (error : Release.Error) :
    (renderFailure error : Stage α).EndsIn [.unexpected, .configuration, .template] := by
  unfold renderFailure
  split
  · exact Stage.endsIn_fail (by decide) _
  · exact Stage.endsIn_fail (by decide) _
  · exact Stage.endsIn_unexpected (by decide) _

theorem endsIn_render (draft : Release.Draft) :
    (options.render world draft).EndsIn [.unexpected, .configuration, .template] := by
  refine Stage.endsIn_bind (Stage.endsIn_header (by decide) _ _) fun _ => ?_
  refine Stage.endsIn_bind (Stage.endsIn_log _) fun _ => ?_
  split
  · exact endsIn_renderFailure _
  · refine Stage.endsIn_bind (Stage.endsIn_print (by decide) _) fun _ => ?_
    exact Stage.endsIn_done _

/-- Neither success nor a failed write ends a run before the last stage. -/
theorem endsIn_compose :
    (options.compose world).EndsIn
      [.unexpected, .noRepository, .configuration, .history, .template] := by
  refine Stage.endsIn_bind ((options.endsIn_load world).mono (by decide)) fun loaded => ?_
  refine Stage.endsIn_bind ((options.endsIn_gather world loaded.1).mono (by decide)) fun _ => ?_
  refine Stage.endsIn_bind ((options.endsIn_render world _).mono (by decide)) fun _ => ?_
  refine Stage.endsIn_bind (Stage.endsIn_header (by decide) _ _) fun _ => ?_
  exact Stage.endsIn_done _

/-! The last stage. -/

theorem endsIn_reportWrite (path : Path) (result : Except FileError Unit) :
    (reportWrite path result).EndsIn [.unexpected, .writing] := by
  unfold reportWrite
  split
  · unfold writeFailure
    split
    · exact Stage.endsIn_fail (by decide) _
    · exact Stage.endsIn_unexpected (by decide) _
  · exact Stage.endsIn_print (by decide) _

theorem endsIn_write (tree : FileTree) (notes : Text) :
    (write tree settings notes).2.EndsIn [.unexpected, .writing] :=
  Stage.endsIn_bind (Stage.endsIn_log _) fun _ => endsIn_reportWrite _ _

theorem code_write_ne_success {tree : FileTree} {notes : Text}
    (h : codeOf (write tree settings notes).2.result ≠ .success) :
    codeOf (write tree settings notes).2.result = .unexpected ∨
      codeOf (write tree settings notes).2.result = .writing := by
  cases hresult : (write tree settings notes).2.result with
  | ok value =>
      rw [hresult] at h
      exact absurd rfl h
  | error code =>
      have hcode := endsIn_write settings tree notes code hresult
      simpa [codeOf] using hcode

/-- Only a refused file is reported as a failed write. -/
theorem code_write_eq_writing_iff {tree : FileTree} {notes : Text} :
    codeOf (write tree settings notes).2.result = .writing ↔
      ∃ fault path, (ChangelogFile.prepend tree settings.changelogPath notes).2 =
        .error (.refused fault path) := by
  show codeOf (reportWrite settings.changelogPath
    (ChangelogFile.prepend tree settings.changelogPath notes).2).result = .writing ↔ _
  cases hresult : (ChangelogFile.prepend tree settings.changelogPath notes).2 with
  | error error =>
      cases error <;> simp [reportWrite, writeFailure, codeOf, Stage.fail, Stage.unexpected]
  | ok written =>
      have hprinted : (reportWrite settings.changelogPath (.ok written)).EndsIn [.unexpected] :=
        Stage.endsIn_print (by decide) _
      have hcode : codeOf (reportWrite settings.changelogPath (.ok written)).result ≠ .writing := by
        intro hwriting
        cases hstage : (reportWrite settings.changelogPath (.ok written)).result with
        | ok value =>
            rw [hstage] at hwriting
            cases hwriting
        | error code =>
            rw [hstage, List.mem_singleton.mp (hprinted code hstage)] at hwriting
            cases hwriting
      simp [hcode]

end Options

end ReleaseNotes.CommandLine
