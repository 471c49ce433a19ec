import ReleaseNotes.CommandLine.Run
import ReleaseNotes.Proofs.ChangelogFile.Writing

namespace ReleaseNotes.CommandLine

/-! How a stage ends. A run goes on only as long as every stage before has ended well. -/

namespace Stage

theorem andThen_eq_ok_iff {stage : Stage α} {next : α → Stage β} {b : β} :
    (stage.andThen next).result = .ok b ↔
      ∃ a, stage.result = .ok a ∧ (next a).result = .ok b := by
  unfold andThen
  cases hresult : stage.result with
  | error code => simp
  | ok a => simp

theorem bind_eq_ok_iff {stage : Stage α} {next : α → Stage β} {b : β} :
    (stage >>= next).result = .ok b ↔ ∃ a, stage.result = .ok a ∧ (next a).result = .ok b :=
  andThen_eq_ok_iff

theorem bind_eq_error_iff {stage : Stage α} {next : α → Stage β} {code : ExitCode} :
    (stage >>= next).result = .error code ↔
      stage.result = .error code ∨
        ∃ a, stage.result = .ok a ∧ (next a).result = .error code := by
  show (stage.andThen next).result = .error code ↔ _
  unfold andThen
  cases hresult : stage.result with
  | error reason => simp
  | ok a => simp

theorem obstacle?_printed_eq_none_iff {line : Text} :
    Utf8.obstacle? (Text.withoutControls (line ++ Text.newline)) = none ↔
      Utf8.obstacle? line = none := by
  rw [Text.obstacle?_withoutControls_eq_none_iff, Utf8.obstacle?_append_eq_none_iff]
  exact and_iff_left rfl

theorem print_eq {line : Text} (h : Utf8.obstacle? line = none) :
    print line = ⟨.ok (), { Transcript.empty with
      printed := [Text.withoutControls (line ++ Text.newline)] }⟩ := by
  have hprinted := obstacle?_printed_eq_none_iff.mpr h
  simp only [print, hprinted]

theorem print_of_encodable {line : Text} (h : Utf8.obstacle? line = none) :
    (print line).result = .ok () := by
  rw [print_eq h]

theorem print_of_obstacle {line : Text} (h : Utf8.obstacle? line ≠ none) :
    (print line).result = .error .unexpected := by
  cases hprinted : Utf8.obstacle? (Text.withoutControls (line ++ Text.newline)) with
  | none => exact absurd (obstacle?_printed_eq_none_iff.mp hprinted) h
  | some obstacle =>
      simp only [print, hprinted]
      rfl

end Stage

namespace Options

theorem loadFailure_ne_ok (error : Settings.LoadError) (value : α) :
    (loadFailure error : Stage α).result ≠ .ok value := by
  cases error <;> exact fun h => nomatch h

theorem loadSettings_eq_ok {options : Options} {world : World} {settings : Settings}
    (h : (options.loadSettings world).result = .ok settings) :
    (options.settingsRequest world).load world.tree = .ok settings := by
  obtain ⟨_, _, h⟩ := Stage.bind_eq_ok_iff.mp h
  split at h
  · exact absurd h (loadFailure_ne_ok _ settings)
  · rename_i loaded hloaded
    cases h
    exact hloaded

theorem load_eq_ok {options : Options} {world : World} {settings : Settings} {template : Text}
    (h : (options.load world).result = .ok (settings, template)) :
    (options.loadSettings world).result = .ok settings := by
  obtain ⟨_, _, h⟩ := Stage.bind_eq_ok_iff.mp h
  obtain ⟨loaded, hloaded, h⟩ := Stage.bind_eq_ok_iff.mp h
  obtain ⟨_, _, h⟩ := Stage.bind_eq_ok_iff.mp h
  obtain ⟨_, _, h⟩ := Stage.bind_eq_ok_iff.mp h
  obtain ⟨_, _, h⟩ := Stage.bind_eq_ok_iff.mp h
  obtain ⟨_, _, h⟩ := Stage.bind_eq_ok_iff.mp h
  cases h
  exact hloaded

/-- The settings that come out of the stages that only read are those that were loaded. -/
theorem compose_eq_ok {options : Options} {world : World} {settings : Settings} {notes : Text}
    (h : (options.compose world).result = .ok (settings, notes)) :
    (options.settingsRequest world).load world.tree = .ok settings := by
  obtain ⟨loaded, hloaded, h⟩ := Stage.bind_eq_ok_iff.mp h
  obtain ⟨_, _, h⟩ := Stage.bind_eq_ok_iff.mp h
  obtain ⟨_, _, h⟩ := Stage.bind_eq_ok_iff.mp h
  obtain ⟨_, _, h⟩ := Stage.bind_eq_ok_iff.mp h
  cases h
  exact loadSettings_eq_ok (load_eq_ok hloaded)

theorem code_writeFailure (path : Path) (error : FileError) :
    codeOf (writeFailure path error).result ≠ .success := by
  cases error <;> exact fun h => nomatch h

theorem code_write_eq_success_iff {tree : FileTree} {settings : Settings} {notes : Text} :
    codeOf (write tree settings notes).2.result = .success ↔
      (ChangelogFile.prepend tree settings.changelogPath notes).2 = .ok () ∧
        Utf8.obstacle? settings.changelogPath.text = none := by
  have hlogged : (write tree settings notes).2.result =
      (reportWrite settings.changelogPath
        (ChangelogFile.prepend tree settings.changelogPath notes).2).result := rfl
  rw [hlogged]
  cases hwritten : (ChangelogFile.prepend tree settings.changelogPath notes).2 with
  | error error =>
      constructor
      · intro h
        exact absurd h (code_writeFailure _ error)
      · rintro ⟨h, _⟩
        cases h
  | ok written =>
      have hpath : Utf8.obstacle? ("✓ ".text ++ ("Updated ".text ++ settings.changelogPath.text)) =
          none ↔ Utf8.obstacle? settings.changelogPath.text = none := by
        rw [Utf8.obstacle?_append_eq_none_iff, Utf8.obstacle?_append_eq_none_iff]
        exact ⟨fun h => h.2.2, fun h => ⟨rfl, rfl, h⟩⟩
      rw [reportWrite, Stage.success]
      constructor
      · intro hcode
        by_contra hneither
        have hobstacle : ¬ Utf8.obstacle? settings.changelogPath.text = none :=
          fun h => hneither ⟨rfl, h⟩
        rw [Stage.print_of_obstacle fun h => hobstacle (hpath.mp h)] at hcode
        cases hcode
      · rintro ⟨_, h⟩
        rw [Stage.print_of_encodable (hpath.mpr h)]
        rfl

theorem run_of_error {options : Options} {world : World} {code : ExitCode}
    (h : (options.compose world).result = .error code) : (options.run world).tree = world.tree := by
  simp only [run, h]

theorem run_of_ok {options : Options} {world : World} {settings : Settings} {notes : Text}
    (h : (options.compose world).result = .ok (settings, notes)) :
    (options.run world).tree = (options.finish world.tree settings notes).1 ∧
      (options.run world).code = codeOf (options.finish world.tree settings notes).2.result := by
  simp only [run, h, and_self]

/-- What a run comes to. -/
def outcome (options : Options) (world : World) : Result :=
  (options.run world).result options.isVerbose

theorem outcome_of_writes {options : Options} {world : World} {settings : Settings} {notes : Text}
    (hwrites : options.isDryRun = false)
    (h : (options.compose world).result = .ok (settings, notes)) :
    (options.outcome world).code = codeOf (write world.tree settings notes).2.result ∧
      (options.outcome world).tree =
        (ChangelogFile.prepend world.tree settings.changelogPath notes).1 := by
  obtain ⟨htree, hcode⟩ := run_of_ok h
  have hfinish : options.finish world.tree settings notes = write world.tree settings notes := by
    simp only [finish, hwrites, Bool.false_eq_true, if_false]
  rw [hfinish] at htree hcode
  exact ⟨hcode, htree⟩

end Options

theorem invoke_of_run {arguments : List Text} {world : World} {options : Options}
    (h : Invocation.read world.tree arguments = .run options) :
    invoke arguments world = options.outcome world := by
  rw [invoke, h]
  rfl

end ReleaseNotes.CommandLine
