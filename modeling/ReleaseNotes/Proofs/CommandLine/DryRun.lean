import ReleaseNotes.Proofs.ChangelogFile.Stored
import ReleaseNotes.Proofs.CommandLine.Codes

namespace ReleaseNotes.CommandLine

/-!
What a dry run says about the run that writes. Up to the last stage the two are the same, and there
neither asks git or the server for anything. But what is printed need not be what is written, and a
run may fail once it has changed the changelog.
-/

namespace Stage

def AsksNothing (stage : Stage α) : Prop :=
  stage.transcript.gitCalls = [] ∧ stage.transcript.requests = []

theorem calls_bind_eq_nil {calls : Transcript → List γ}
    (happend : ∀ t u, calls (t ++ u) = calls t ++ calls u) {stage : Stage α} {next : α → Stage β}
    (h : calls stage.transcript = []) (hnext : ∀ a, calls (next a).transcript = []) :
    calls (stage >>= next).transcript = [] := by
  show calls (stage.andThen next).transcript = []
  unfold andThen
  cases stage.result with
  | error code => exact h
  | ok a => rw [happend, h, hnext, List.append_nil]

theorem asksNothing_bind {stage : Stage α} {next : α → Stage β} (h : stage.AsksNothing)
    (hnext : ∀ a, (next a).AsksNothing) : (stage >>= next).AsksNothing :=
  ⟨calls_bind_eq_nil (fun _ _ => rfl) h.1 fun a => (hnext a).1,
    calls_bind_eq_nil (fun _ _ => rfl) h.2 fun a => (hnext a).2⟩

theorem asksNothing_print (line : Text) : (print line).AsksNothing := by
  simp only [print]
  split <;> exact ⟨rfl, rfl⟩

end Stage

namespace Options

/-- The same run, but dry. -/
def rehearsal (options : Options) : Options :=
  { options with isDryRun := true }

theorem compose_rehearsal (options : Options) (world : World) :
    options.rehearsal.compose world = options.compose world :=
  rfl

theorem asksNothing_display (notes : Text) : (display notes).AsksNothing :=
  Stage.asksNothing_bind (Stage.asksNothing_print _) fun _ =>
    Stage.asksNothing_bind (Stage.asksNothing_print _) fun _ => Stage.asksNothing_print _

theorem asksNothing_write (tree : FileTree) (settings : Settings) (notes : Text) :
    (write tree settings notes).2.AsksNothing := by
  refine Stage.asksNothing_bind ⟨rfl, rfl⟩ fun _ => ?_
  unfold reportWrite
  split
  · unfold writeFailure
    split <;> exact ⟨rfl, rfl⟩
  · exact Stage.asksNothing_print _

theorem asksNothing_finish (options : Options) (tree : FileTree) (settings : Settings)
    (notes : Text) : (options.finish tree settings notes).2.AsksNothing := by
  unfold finish
  split
  · exact asksNothing_display notes
  · exact asksNothing_write tree settings notes

/-- What a run asks for depends on the stages that only read. -/
theorem calls_run (options : Options) (world : World) :
    (options.run world).transcript.gitCalls = (options.compose world).transcript.gitCalls ∧
      (options.run world).transcript.requests = (options.compose world).transcript.requests := by
  cases hcomposed : (options.compose world).result with
  | error code => simp only [run, hcomposed, and_self]
  | ok composed =>
      obtain ⟨hgit, hserver⟩ :=
        options.asksNothing_finish world.tree composed.1 composed.2
      simp only [run, hcomposed]
      refine ⟨?_, ?_⟩
      · show _ ++ (options.finish world.tree composed.1 composed.2).2.transcript.gitCalls = _
        rw [hgit, List.append_nil]
      · show _ ++ (options.finish world.tree composed.1 composed.2).2.transcript.requests = _
        rw [hserver, List.append_nil]

/-- What a dry run prints just before the notes. -/
def announced : Transcript :=
  { Transcript.empty with
    printed := ["ℹ Dry run - changelog file left untouched".text ++ Text.newline, Text.newline] }

/-- All that a dry run prints before the notes. -/
def lead (options : Options) (world : World) : Text :=
  ((options.compose world).transcript ++ announced).out

theorem display_eq (notes : Text) :
    display notes = (⟨.ok (), announced⟩ : Stage Unit).andThen fun _ => .print notes := by
  rfl

theorem code_display (notes : Text) :
    codeOf (display notes).result =
      if Utf8.obstacle? notes = none then .success else .unexpected := by
  have hresult : (display notes).result = (Stage.print notes).result := by rw [display_eq]; rfl
  rw [hresult]
  split
  · rename_i hnotes
    rw [Stage.print_of_encodable hnotes]
    rfl
  · rename_i hnotes
    rw [Stage.print_of_obstacle hnotes]
    rfl

theorem out_display (options : Options) (world : World) {notes : Text}
    (h : Utf8.obstacle? notes = none) :
    ((options.compose world).transcript ++ (display notes).transcript).out =
      options.lead world ++ Text.withoutControls (notes ++ Text.newline) := by
  have hprinted : ((options.compose world).transcript ++ (display notes).transcript).printed =
      ((options.compose world).transcript ++ announced).printed ++
        [Text.withoutControls (notes ++ Text.newline)] := by
    rw [display_eq, Stage.print_eq h]
    exact (List.append_assoc _ _ _).symm
  rw [lead, Transcript.out, Transcript.out, hprinted, List.flatten_append, List.flatten_singleton]

theorem sameCalls (options : Options) (world : World) :
    (options.rehearsal.outcome world).gitCalls = (options.outcome world).gitCalls ∧
      (options.rehearsal.outcome world).requests = (options.outcome world).requests := by
  obtain ⟨hgit, hserver⟩ := options.calls_run world
  obtain ⟨hdryGit, hdryServer⟩ := options.rehearsal.calls_run world
  exact ⟨hdryGit.trans hgit.symm, hdryServer.trans hserver.symm⟩

/-! The dry run, once the notes are composed. -/

variable {options : Options} {world : World} {settings : Settings} {notes : Text}

theorem outcome_rehearsal (h : (options.compose world).result = .ok (settings, notes)) :
    (options.rehearsal.outcome world).code =
        (if Utf8.obstacle? notes = none then .success else .unexpected) ∧
      (Utf8.obstacle? notes = none → (options.rehearsal.outcome world).out =
        options.lead world ++ Text.withoutControls (notes ++ Text.newline)) := by
  have hrun : options.rehearsal.run world =
      ⟨codeOf (display notes).result,
        (options.compose world).transcript ++ (display notes).transcript, world.tree⟩ := by
    simp only [run, compose_rehearsal, h]
    rfl
  rw [outcome, hrun, ← code_display]
  exact ⟨rfl, fun hnotes => out_display options world hnotes⟩

end Options

/-- A changelog that leads with these notes: one blank line above what was there, or nothing below
the notes if there were only line feeds or no file at all. -/
def LeadsWith (notes : Text) (path : Path) (before after : FileTree) : Prop :=
  ∃ previous, ChangelogFile.previousText before path = .ok previous ∧
    ChangelogFile.storedText after path = .ok
      (if ∀ letter ∈ previous, letter = .char '\n' then Text.strip notes ++ Text.newline
      else Text.strip notes ++ Text.newline ++ Text.newline ++ Text.dropNewlines previous)

theorem leadsWith_of_prepend_ok {notes : Text} {path : Path} {tree : FileTree}
    (h : (ChangelogFile.prepend tree path notes).2 = .ok ()) :
    LeadsWith notes path tree (ChangelogFile.prepend tree path notes).1 := by
  cases hprevious : ChangelogFile.previousText tree path with
  | error error =>
      rw [ChangelogFile.prepend, hprevious] at h
      cases h
  | ok previous =>
      refine ⟨previous, hprevious, ?_⟩
      rw [← ChangelogFile.headed_eq_ite]
      exact ChangelogFile.storedText_of_prepend_ok hprevious h

/-- What a dry run says about the run that writes, with the same options in the same world. The
notes are the last of what it prints. -/
structure Foretells (options : Options) (world : World) (dry real : Result) : Prop where
  calls : dry.gitCalls = real.gitCalls ∧ dry.requests = real.requests
  failure : dry.code ≠ .success →
    real.code = dry.code ∧ real.tree.fileAt? = world.tree.fileAt?
  success : dry.code = .success → ∃ settings notes,
    (options.compose world).result = .ok (settings, notes) ∧
      dry.out = options.lead world ++ (notes ++ Text.newline) ∧
      ((real.code = .unexpected ∨ real.code = .writing) ∧
          real.tree.fileAt? = world.tree.fileAt? ∨
        real.code = .success ∧
          LeadsWith notes settings.changelogPath world.tree real.tree)

namespace Options

variable {options : Options} {world : World} {settings : Settings} {notes : Text}

/-- A run that ends before the last stage is the same if it is dry. -/
theorem foretells_of_error {code : ExitCode} (h : (options.compose world).result = .error code) :
    Foretells options world (options.rehearsal.outcome world) (options.outcome world) := by
  have hrun : options.run world = ⟨code, (options.compose world).transcript, world.tree⟩ := by
    simp only [run, h]
  have hdry : options.rehearsal.run world =
      ⟨code, (options.compose world).transcript, world.tree⟩ := by
    simp only [run, compose_rehearsal, h]
  have hcode : code ≠ .success := by
    rintro rfl
    exact absurd (options.endsIn_compose world .success h) (by decide)
  refine ⟨options.sameCalls world, ?_, ?_⟩
  · intro _
    rw [outcome, outcome, hrun, hdry]
    exact ⟨rfl, rfl⟩
  · intro hsuccess
    rw [outcome, hdry] at hsuccess
    exact absurd hsuccess hcode

/-- The notes are printed, so the run that writes must not fail once it has changed a file. -/
theorem foretells_iff_of_encodable (hwrites : options.isDryRun = false)
    (h : (options.compose world).result = .ok (settings, notes))
    (hnotes : Utf8.obstacle? notes = none) :
    Foretells options world (options.rehearsal.outcome world) (options.outcome world) ↔
      Text.withoutControls (notes ++ Text.newline) = notes ++ Text.newline ∧
        (Utf8.obstacle? settings.changelogPath.text = none ∨
          (ChangelogFile.prepend world.tree settings.changelogPath notes).1.fileAt? =
            world.tree.fileAt?) := by
  obtain ⟨hdryCode, hdryOut⟩ := outcome_rehearsal h
  obtain ⟨hcode, htree⟩ := outcome_of_writes hwrites h
  rw [if_pos hnotes] at hdryCode
  rw [← htree]
  constructor
  · intro hforetells
    obtain ⟨_, _, hcomposed, hout, hlast⟩ := hforetells.success hdryCode
    cases h.symm.trans hcomposed
    rw [hdryOut hnotes] at hout
    refine ⟨List.append_cancel_left hout, ?_⟩
    cases hlast with
    | inl hfailed => exact Or.inr hfailed.2
    | inr hwritten => exact Or.inl (code_write_eq_success_iff.mp (hcode ▸ hwritten.1)).2
  · rintro ⟨hshown, hlast⟩
    refine ⟨options.sameCalls world, fun hne => absurd hdryCode hne, fun _ => ?_⟩
    refine ⟨settings, notes, h, by rw [hdryOut hnotes, hshown], ?_⟩
    by_cases hsuccess : (options.outcome world).code = .success
    · have hwritten := code_write_eq_success_iff.mp (hcode ▸ hsuccess)
      exact Or.inr ⟨hsuccess, htree ▸ leadsWith_of_prepend_ok hwritten.1⟩
    · rw [hcode] at hsuccess ⊢
      refine Or.inl ⟨code_write_ne_success settings hsuccess, ?_⟩
      cases hlast with
      | inr hsame => exact hsame
      | inl hpath =>
          rw [htree]
          apply ChangelogFile.files_of_prepend_ne_ok hnotes
          exact fun hok => hsuccess (code_write_eq_success_iff.mpr ⟨hok, hpath⟩)

/-- The notes are not printed, so the run that writes must not get to changing a file either. -/
theorem foretells_iff_of_obstacle (hwrites : options.isDryRun = false)
    (h : (options.compose world).result = .ok (settings, notes))
    (hnotes : Utf8.obstacle? notes ≠ none) :
    Foretells options world (options.rehearsal.outcome world) (options.outcome world) ↔
      (ChangelogFile.prepend world.tree settings.changelogPath notes).1.fileAt? =
          world.tree.fileAt? ∧
        ∀ fault path, (ChangelogFile.prepend world.tree settings.changelogPath notes).2 ≠
          .error (.refused fault path) := by
  obtain ⟨hdryCode, _⟩ := outcome_rehearsal h
  obtain ⟨hcode, htree⟩ := outcome_of_writes hwrites h
  rw [if_neg hnotes] at hdryCode
  rw [← htree]
  constructor
  · intro hforetells
    obtain ⟨hsame, hfiles⟩ := hforetells.failure (by rw [hdryCode]; decide)
    refine ⟨hfiles, fun fault path hrefused => ?_⟩
    have hwriting := code_write_eq_writing_iff settings |>.mpr ⟨fault, path, hrefused⟩
    rw [← hcode, hsame, hdryCode] at hwriting
    cases hwriting
  · rintro ⟨hfiles, hrefused⟩
    have hfailed : codeOf (write world.tree settings notes).2.result ≠ .success := by
      intro hsuccess
      exact hnotes (ChangelogFile.encodable_of_prepend_ok (code_write_eq_success_iff.mp hsuccess).1)
    refine ⟨options.sameCalls world, fun _ => ⟨?_, hfiles⟩, fun hsuccess => ?_⟩
    · rw [hcode, hdryCode]
      refine (code_write_ne_success settings hfailed).resolve_right fun hwriting => ?_
      obtain ⟨fault, path, hprepend⟩ := (code_write_eq_writing_iff settings).mp hwriting
      exact hrefused fault path hprepend
    · rw [hdryCode] at hsuccess
      cases hsuccess

end Options

/-- Whether a dry run is right about what becomes of these notes. Notes that can be printed must be
printed as they are, and the path with them, or writing changes nothing anyway; for notes that cannot
be printed, writing must change nothing and fail of something else than a refused file. -/
def IsForetold (tree : FileTree) (settings : Settings) (notes : Text) : Prop :=
  let written := ChangelogFile.prepend tree settings.changelogPath notes
  if Utf8.obstacle? notes = none then
    Text.withoutControls (notes ++ Text.newline) = notes ++ Text.newline ∧
      (Utf8.obstacle? settings.changelogPath.text = none ∨ written.1.fileAt? = tree.fileAt?)
  else written.1.fileAt? = tree.fileAt? ∧ ∀ fault path, written.2 ≠ .error (.refused fault path)

/-- A dry run and one that writes ask for the same. The dry run foretells the other exactly if the
notes that both compose, if any, come through the last stage as they are. -/
theorem foretells_iff {arguments dryArguments : List Text} {world : World} {options : Options}
    (hread : Invocation.read world.tree arguments = .run options)
    (hwrites : options.isDryRun = false)
    (hdry : Invocation.read world.tree dryArguments = .run options.rehearsal) :
    let dry := invoke dryArguments world
    let real := invoke arguments world
    (dry.gitCalls = real.gitCalls ∧ dry.requests = real.requests) ∧
      (Foretells options world dry real ↔
        ∀ settings notes, (options.compose world).result = .ok (settings, notes) →
          IsForetold world.tree settings notes) := by
  intro dry real
  have hreal : real = options.outcome world := invoke_of_run hread
  have hdryRun : dry = options.rehearsal.outcome world := invoke_of_run hdry
  rw [hreal, hdryRun]
  refine ⟨options.sameCalls world, ?_⟩
  cases hcomposed : (options.compose world).result with
  | error code =>
      exact iff_of_true (Options.foretells_of_error hcomposed) fun _ _ h => nomatch h
  | ok composed =>
      obtain ⟨settings, notes⟩ := composed
      have honly : (∀ settings' notes', (Except.ok (settings, notes) : Except ExitCode _) =
          .ok (settings', notes') → IsForetold world.tree settings' notes') ↔
            IsForetold world.tree settings notes :=
        ⟨fun h => h settings notes rfl, by rintro h _ _ ⟨⟩; exact h⟩
      rw [honly, IsForetold]
      split
      · rename_i hnotes
        exact Options.foretells_iff_of_encodable hwrites hcomposed hnotes
      · rename_i hnotes
        exact Options.foretells_iff_of_obstacle hwrites hcomposed hnotes

/-- A changelog that starts with a line feed, and one commit since the release before. -/
theorem foretells_one_feature :
    let arguments := ["--version-name".text, "1.1.0".text, "--from".text, "v1.0.0".text]
    let options : Options :=
      { version := "1.1.0".text, fromRef := some "v1.0.0".text, toRef := "HEAD".text
        source := .git, mapping := none, template := none, output := none, workspace := none
        order := .firstSeen, isDryRun := false, isVerbose := false }
    let world : World :=
      { tree :=
          ⟨[([".git".text], .folder),
            (["CHANGELOG.md".text], .file (Utf8.encodeChars "\n## 1.0.0\n\n- Old\n".toList))],
           [], by decide⟩
        environment := []
        git := [.ran 0 (Utf8.encodeChars "feat: add search\n\x1E\n".toList) []]
        server := []
        today := ⟨2024, 3, 5, by decide, by decide, by decide⟩
        elapsed := .zero false }
    Invocation.read world.tree arguments = .run options ∧ options.isDryRun = false ∧
      Invocation.read world.tree ("--dry-run".text :: arguments) = .run options.rehearsal ∧
      (invoke arguments world).code = .success ∧
      Foretells options world (invoke ("--dry-run".text :: arguments) world)
        (invoke arguments world) := by
  intro arguments options world
  have hread : Invocation.read world.tree arguments = .run options := rfl
  have hdry : Invocation.read world.tree ("--dry-run".text :: arguments) = .run options.rehearsal :=
    rfl
  have hcode : (invoke arguments world).code = .success := by decide +kernel
  have hkept : ((options.compose world).result.map fun composed =>
      (Utf8.obstacle? composed.2).isNone &&
        Text.withoutControls (composed.2 ++ Text.newline) == composed.2 ++ Text.newline &&
        (Utf8.obstacle? composed.1.changelogPath.text).isNone) = .ok true := by
    decide +kernel
  have hforetells :=
    (@foretells_iff arguments ("--dry-run".text :: arguments) world options hread rfl hdry).2
  refine ⟨hread, rfl, hdry, hcode, hforetells.mpr fun settings notes hcomposed => ?_⟩
  rw [hcomposed] at hkept
  simp only [Except.map, Except.ok.injEq, Bool.and_eq_true, Option.isNone_iff_eq_none, beq_iff_eq]
    at hkept
  obtain ⟨⟨hnotes, hshown⟩, hpath⟩ := hkept
  rw [IsForetold, if_pos hnotes]
  exact ⟨hshown, Or.inl hpath⟩

/-- Half a surrogate pair in a message: neither run succeeds, but one of them empties the
changelog. -/
theorem not_foretells_half_pair :
    let answer := "\x7b\"total_commits\": 1, \"commits\": " ++
      "[\x7b\"commit\": \x7b\"message\": \"feat: \\ud83d\"\x7d\x7d]\x7d"
    let arguments :=
      ["--version-name".text, "1.1.0".text, "--source".text, "github".text, "--from".text,
        "v1.0.0".text]
    let options : Options :=
      { version := "1.1.0".text, fromRef := some "v1.0.0".text, toRef := "HEAD".text
        source := .gitHub, mapping := none, template := none, output := none, workspace := none
        order := .firstSeen, isDryRun := false, isVerbose := false }
    let world : World :=
      { tree :=
          ⟨[(["CHANGELOG.md".text], .file (Utf8.encodeChars "## 1.0.0\n\n- Old\n".toList))],
           [], by decide⟩
        environment := [("GITHUB_REPOSITORY".text, "o/r".text)]
        git := []
        server := [.answered 200 (Utf8.encodeChars answer.toList)]
        today := ⟨2024, 3, 5, by decide, by decide, by decide⟩
        elapsed := .zero false }
    Invocation.read world.tree arguments = .run options ∧ options.isDryRun = false ∧
      Invocation.read world.tree ("--dry-run".text :: arguments) = .run options.rehearsal ∧
      ¬ Foretells options world (invoke ("--dry-run".text :: arguments) world)
        (invoke arguments world) := by
  intro answer arguments options world
  refine ⟨rfl, rfl, rfl, fun h => ?_⟩
  have hruns : (invoke ("--dry-run".text :: arguments) world).code ≠ .success ∧
      (invoke arguments world).tree.fileAt? ["CHANGELOG.md".text] ≠
        world.tree.fileAt? ["CHANGELOG.md".text] := by
    decide +kernel
  exact hruns.2 (congrFun (h.failure hruns.1).2 ["CHANGELOG.md".text])

end ReleaseNotes.CommandLine
