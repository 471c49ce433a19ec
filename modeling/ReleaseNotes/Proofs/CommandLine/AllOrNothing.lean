import ReleaseNotes.Proofs.CommandLine.Stages

namespace ReleaseNotes.CommandLine

/-!
What a run does to the files. It never changes any but the changelog, and a dry run changes none; but
a run may still fail once the changelog is written, and it does so exactly if the notes or the path of
the changelog cannot be written in UTF-8.
-/

/-- The place of the changelog, as a run leaves the tree that may write it. -/
def IsChangelogOf (arguments : List Text) (world : World) (place : Location) : Prop :=
  ∃ options settings, Invocation.read world.tree arguments = .run options ∧
    options.isDryRun = false ∧ (options.settingsRequest world).load world.tree = .ok settings ∧
    (invoke arguments world).tree.locate settings.changelogPath = .ok place

/-- If a file differs after a run then the run has succeeded and the file is the changelog. -/
def AllOrNothing (arguments : List Text) (world : World) : Prop :=
  ∀ place, (invoke arguments world).tree.fileAt? place ≠ world.tree.fileAt? place →
    (invoke arguments world).code = .success ∧ IsChangelogOf arguments world place

/-- Whether a run comes to writing, with which settings and which notes. -/
def ComesToWriting (arguments : List Text) (world : World) (settings : Settings) (notes : Text) :
    Prop :=
  ∃ options, Invocation.read world.tree arguments = .run options ∧ options.isDryRun = false ∧
    (options.compose world).result = .ok (settings, notes)

theorem invoke_of_comesToWriting {arguments : List Text} {world : World} {settings : Settings}
    {notes : Text} (h : ComesToWriting arguments world settings notes) :
    (invoke arguments world).tree =
        (ChangelogFile.prepend world.tree settings.changelogPath notes).1 ∧
      ((invoke arguments world).code = .success ↔
        (ChangelogFile.prepend world.tree settings.changelogPath notes).2 = .ok () ∧
          Utf8.obstacle? settings.changelogPath.text = none) := by
  obtain ⟨options, hread, hdry, hcomposed⟩ := h
  obtain ⟨hcode, htree⟩ := Options.outcome_of_writes hdry hcomposed
  rw [invoke_of_run hread, hcode]
  exact ⟨htree, Options.code_write_eq_success_iff⟩

/-- Only a run that comes to writing changes the tree at all. -/
theorem tree_invoke (arguments : List Text) (world : World) :
    (invoke arguments world).tree = world.tree ∨
      ∃ settings notes, ComesToWriting arguments world settings notes := by
  unfold invoke
  cases hread : Invocation.read world.tree arguments with
  | refuse refusal =>
      cases refusal with
      | usage error => exact Or.inl rfl
      | silent => exact Or.inl rfl
  | showVersion => exact Or.inl rfl
  | showHelp => exact Or.inl rfl
  | run options =>
      cases hcomposed : (options.compose world).result with
      | error code => exact Or.inl (Options.run_of_error hcomposed)
      | ok composed =>
          obtain ⟨settings, notes⟩ := composed
          cases hdry : options.isDryRun with
          | true =>
              refine Or.inl ((Options.run_of_ok hcomposed).1.trans ?_)
              rw [Options.finish, hdry]
              rfl
          | false => exact Or.inr ⟨settings, notes, options, hread, hdry, hcomposed⟩

theorem comesToWriting_of_differs {arguments : List Text} {world : World} {place : Location}
    (h : (invoke arguments world).tree.fileAt? place ≠ world.tree.fileAt? place) :
    ∃ settings notes, ComesToWriting arguments world settings notes := by
  cases tree_invoke arguments world with
  | inl htree => exact absurd (congrArg (fun tree => tree.fileAt? place) htree) h
  | inr hwriting => exact hwriting

theorem isChangelogOf_of_differs {arguments : List Text} {world : World} {place : Location}
    (h : (invoke arguments world).tree.fileAt? place ≠ world.tree.fileAt? place) :
    IsChangelogOf arguments world place := by
  obtain ⟨settings, notes, hwriting⟩ := comesToWriting_of_differs h
  obtain ⟨htree, _⟩ := invoke_of_comesToWriting hwriting
  obtain ⟨options, hread, hdry, hcomposed⟩ := hwriting
  refine ⟨options, settings, hread, hdry, Options.compose_eq_ok hcomposed, ?_⟩
  rw [htree] at h ⊢
  cases ChangelogFile.prepend_cases world.tree settings.changelogPath notes with
  | inl hfailed => exact absurd (congrFun hfailed.1 place) h
  | inr hwritten =>
      obtain ⟨changelog, hlocate, hothers, _⟩ := hwritten
      have hplace : place = changelog := by
        by_contra hother
        exact h (hothers place hother)
      exact hplace ▸ hlocate

/-- What a run that changes the changelog may fail of. -/
theorem code_of_differs {arguments : List Text} {world : World} {settings : Settings} {notes : Text}
    (hwriting : ComesToWriting arguments world settings notes) {place : Location}
    (h : (invoke arguments world).tree.fileAt? place ≠ world.tree.fileAt? place) :
    (invoke arguments world).code = .success ↔
      Utf8.obstacle? notes = none ∧ Utf8.obstacle? settings.changelogPath.text = none := by
  obtain ⟨htree, hcode⟩ := invoke_of_comesToWriting hwriting
  rw [htree] at h
  rw [hcode]
  cases ChangelogFile.prepend_cases world.tree settings.changelogPath notes with
  | inl hfailed => exact absurd (congrFun hfailed.1 place) h
  | inr hwritten =>
      obtain ⟨changelog, _, _, hresult⟩ := hwritten
      rw [hresult]

/-- A run changes no file but the changelog, and none if it is dry. It is all or nothing exactly if
the notes and the path can be written in UTF-8, or writing changes nothing anyway. -/
theorem allOrNothing_iff (arguments : List Text) (world : World) :
    (∀ place, (invoke arguments world).tree.fileAt? place ≠ world.tree.fileAt? place →
        IsChangelogOf arguments world place) ∧
      (AllOrNothing arguments world ↔
        ∀ settings notes, ComesToWriting arguments world settings notes →
          (Utf8.obstacle? notes = none ∧ Utf8.obstacle? settings.changelogPath.text = none) ∨
            (ChangelogFile.prepend world.tree settings.changelogPath notes).1.fileAt? =
              world.tree.fileAt?) := by
  refine ⟨fun place => isChangelogOf_of_differs, ?_, ?_⟩
  · intro hall settings notes hwriting
    obtain ⟨htree, _⟩ := invoke_of_comesToWriting hwriting
    rw [← htree]
    by_cases hdiffers :
        ∃ place, (invoke arguments world).tree.fileAt? place ≠ world.tree.fileAt? place
    · obtain ⟨place, hdiffers⟩ := hdiffers
      exact Or.inl ((code_of_differs hwriting hdiffers).mp (hall place hdiffers).1)
    · right
      funext place
      by_contra hplace
      exact hdiffers ⟨place, hplace⟩
  · intro hwritable place hdiffers
    obtain ⟨settings, notes, hwriting⟩ := comesToWriting_of_differs hdiffers
    refine ⟨?_, isChangelogOf_of_differs hdiffers⟩
    cases hwritable settings notes hwriting with
    | inl hencodable => exact (code_of_differs hwriting hdiffers).mpr hencodable
    | inr hsame =>
        rw [(invoke_of_comesToWriting hwriting).1] at hdiffers
        exact absurd (congrFun hsame place) hdiffers

/-- Half a surrogate pair in a message empties the changelog, and the run fails. -/
theorem not_allOrNothing_half_pair :
    let answer := "\x7b\"total_commits\": 1, \"commits\": " ++
      "[\x7b\"commit\": \x7b\"message\": \"fix: \\ud800\"\x7d\x7d]\x7d"
    let arguments :=
      ["--version-name".text, "1.0.0".text, "--source".text, "github".text, "--from".text,
        "v0.9.0".text]
    let world : World :=
      { tree :=
          ⟨[(["CHANGELOG.md".text], .file (Utf8.encodeChars "## 0.9.0\n\n- Old\n".toList))],
           [], by decide⟩
        environment := [("GITHUB_REPOSITORY".text, "o/r".text)]
        git := []
        server := [.answered 200 (Utf8.encodeChars answer.toList)]
        today := ⟨2024, 3, 5, by decide, by decide, by decide⟩
        elapsed := .zero false }
    ¬ AllOrNothing arguments world := by
  intro answer arguments world h
  have hrun : (invoke arguments world).tree.fileAt? ["CHANGELOG.md".text] ≠
      world.tree.fileAt? ["CHANGELOG.md".text] ∧ (invoke arguments world).code ≠ .success := by
    decide +kernel
  exact hrun.2 (h ["CHANGELOG.md".text] hrun.1).1

end ReleaseNotes.CommandLine
