import ReleaseNotes.Proofs.CommandLine.Calls
import ReleaseNotes.Proofs.History.TagWalk

namespace ReleaseNotes.CommandLine

/-!
The range of a run that was given no start: Git is asked for the tag before the release, and then
for what has come since that tag.
-/

namespace Stage

theorem gitCalls_ofGit (folder : Location) (outcome : Git.Outcome α) :
    (ofGit folder outcome).transcript.gitCalls =
      outcome.exchanges.map fun exchange => ⟨exchange.command, folder⟩ := by
  unfold ofGit
  rw [bind_eq_of_ok rfl, bind_eq_of_ok rfl]
  show (record _ []).transcript.gitCalls ++ ([] ++ _) = _
  rw [List.nil_append, List.append_right_eq_self.mpr]
  · rfl
  · split
    · rfl
    · split <;> rfl

/-- Nothing is asked for after a line that cannot be printed. -/
theorem gitCalls_print_bind (line : Text) (next : Unit → Stage α) :
    (print line >>= next).transcript.gitCalls =
      if Utf8.obstacle? line = none then (next ()).transcript.gitCalls else [] := by
  split
  · rename_i hline
    exact (sameCalls_of_asksNothing (asksNothing_print line) (print_of_encodable hline)).1
  · rename_i hline
    rw [bind_eq_of_error (print_of_obstacle hline)]
    exact (asksNothing_print line).1

end Stage

namespace Options

variable {options : Options} {world : World} {settings : Settings} {folder : Location}

/-- The calls of the search for the tag before the release. -/
def searchCalls (options : Options) (world : World) (folder : Location) : List GitCall :=
  (options.tagSearch world).exchanges.map fun exchange => ⟨exchange.command, folder⟩

def rangeCall (base : Option Text) (head : Text) (folder : Location) : GitCall :=
  ⟨Git.history (rangeText base head) true, folder⟩

/-- Git is asked for the tag and for what came since, as far as it can be asked. -/
inductive AsksForRange (options : Options) (world : World) (settings : Settings) :
    List GitCall → Prop
  | nothing :
      ¬ IsInside world.tree settings.workspace → AsksForRange options world settings []
  | search {folder : Location} :
      IsAsked world.tree settings.workspace folder →
      (∀ base, (options.tagSearch world).result = .ok base →
        Utf8.obstacle? (rangeText base options.toRef) ≠ none) →
      AsksForRange options world settings (options.searchCalls world folder)
  | range {folder : Location} {base : Option Text} :
      IsAsked world.tree settings.workspace folder →
      (options.tagSearch world).result = .ok base →
      (∀ tag, base = some tag → tag ∉ Release.tagNames options.version) →
      Utf8.obstacle? (rangeText base options.toRef) = none →
      AsksForRange options world settings
        (options.searchCalls world folder ++ [rangeCall base options.toRef folder])

theorem gitCalls_ranged (base : Option Text) (answers : List Git.Answer) (folder : Location) :
    (do
      Stage.detail ("Revision range: ".text ++ rangeText base options.toRef)
      Stage.progress "Reading commit history"
      let (messages, _) ← Stage.ofGit folder
        (Git.commits (rangeText base options.toRef) true answers)
      Stage.progressDone world.elapsed
      Stage.done (messages.map Json.string)).transcript.gitCalls =
        if Utf8.obstacle? (rangeText base options.toRef) = none then
          [rangeCall base options.toRef folder]
        else [] := by
  have hcommits := Stage.gitCalls_ofGit folder
    (Git.commits (rangeText base options.toRef) true answers)
  rw [Stage.detail, Stage.gitCalls_print_bind]
  simp only [Utf8.obstacle?_append_eq_none_iff, Utf8.obstacle?_text, true_and]
  refine if_congr Iff.rfl ?_ rfl
  refine (Stage.sameCalls_of_asksNothing (Stage.asksNothing_print _) (Stage.progress_ok _)).1.trans
    (Eq.trans (Stage.sameCalls_of_silent fun _ => ?_).1 hcommits)
  exact Stage.asksNothing_bind (Stage.asksNothing_print _) fun _ => ⟨rfl, rfl⟩

theorem gitCalls_gitCommits (h : options.givenStart = none)
    (hfolder : Utf8.obstacle? (FileTree.placeText folder) = none) :
    (options.gitCommits world folder).transcript.gitCalls =
      options.searchCalls world folder ++
        match (options.tagSearch world).result with
        | .error _ => []
        | .ok base =>
            if Utf8.obstacle? (rangeText base options.toRef) = none then
              [rangeCall base options.toRef folder]
            else [] := by
  have hbase : options.gitBase world folder = .ofGit folder (options.tagSearch world) := by
    rw [gitBase_eq, h]
    rfl
  have hsearch := Stage.gitCalls_ofGit folder (options.tagSearch world)
  unfold gitCommits
  rw [Stage.success, Stage.gitCalls_print_bind, hbase]
  simp only [Utf8.obstacle?_append_eq_none_iff, Utf8.obstacle?_text, hfolder, and_self, if_true]
  have hresult := Stage.result_ofGit folder (options.tagSearch world)
  cases hfound : (options.tagSearch world).result with
  | error error =>
      rw [hfound] at hresult
      rw [Stage.bind_eq_of_error hresult, List.append_nil]
      exact hsearch
  | ok base =>
      rw [hfound] at hresult
      rw [Stage.bind_eq_of_ok hresult]
      exact congrArg₂ (· ++ ·) hsearch (gitCalls_ranged base _ folder)

theorem asksForRange_of_isAsked (h : options.givenStart = none)
    (hasked : IsAsked world.tree settings.workspace folder) :
    AsksForRange options world settings (options.gitCommits world folder).transcript.gitCalls := by
  rw [gitCalls_gitCommits h hasked.2]
  cases hfound : (options.tagSearch world).result with
  | error error =>
      rw [List.append_nil]
      refine .search hasked fun base hbase => ?_
      cases hfound.symm.trans hbase
  | ok base =>
      by_cases hrange : Utf8.obstacle? (rangeText base options.toRef) = none
      · simp only [if_pos hrange]
        refine .range hasked hfound (fun tag htag => ?_) hrange
        obtain ⟨_, _, _, hwalk⟩ := Git.exists_walk (Release.tagNames options.version)
          options.toRef world.git
        exact hwalk.not_mem_excluded (hfound.trans (congrArg _ htag))
      · simp only [if_neg hrange, List.append_nil]
        refine .search hasked fun other hother => ?_
        cases hfound.symm.trans hother
        exact hrange

theorem asksForRange (h : options.givenStart = none) :
    AsksForRange options world settings
      (options.collectFromGit world settings).transcript.gitCalls := by
  unfold collectFromGit
  cases hrepository : Git.repositoryOf world.tree settings.workspace with
  | error error =>
      refine .nothing fun ⟨other, hother⟩ => ?_
      cases hrepository.symm.trans (isAsked_iff.mp hother).1
  | ok found =>
      cases found with
      | none =>
          refine .nothing fun ⟨other, hother⟩ => ?_
          cases hrepository.symm.trans (isAsked_iff.mp hother).1
      | some folder =>
          by_cases hfolder : Utf8.obstacle? (FileTree.placeText folder) = none
          · exact asksForRange_of_isAsked h (isAsked_iff.mpr ⟨hrepository, hfolder⟩)
          · simp only [gitCommits, Stage.success, Stage.gitCalls_print_bind,
              Utf8.obstacle?_append_eq_none_iff, Utf8.obstacle?_text, hfolder, and_false, if_false]
            refine .nothing fun ⟨other, hother⟩ => ?_
            cases hrepository.symm.trans (isAsked_iff.mp hother).1
            exact hfolder hother.2

/-- The search ends after at most one call more than there are answers, and never at a tag that is
to be passed over. It reports a failure of Git or nothing, unless Git cannot be found when it is to
be asked about what it cannot be handed. The range of a run starts at what the search has found. -/
theorem tagRange_iff (excluded : List Text) (revision : Text) (answers : List Git.Answer)
    (hstart : options.givenStart = none) :
    let outcome := Git.latestTag excluded revision answers
    Git.SearchesPast excluded revision answers outcome ∧
      (Git.FailsAsGit outcome ↔ ¬ Git.IsStuck excluded revision answers) ∧
      AsksForRange options world settings
        (options.collectFromGit world settings).transcript.gitCalls :=
  ⟨Git.searchesPast_latestTag excluded revision answers, Git.failsAsGit_iff, asksForRange hstart⟩

/-- The tag of the release itself is passed over. -/
theorem tagRange_iff_own_tag :
    let options : Options :=
      { version := "1.1.0".text, fromRef := none, toRef := "HEAD".text
        source := .git, mapping := none, template := none, output := none, workspace := none
        order := .firstSeen, isDryRun := false, isVerbose := false }
    let said (text : String) : Git.Answer := .ran 0 (Utf8.encodeChars text.toList) []
    let world : World :=
      { tree := ⟨[([".git".text], .folder)], [], by decide⟩
        environment := []
        git := [said "v1.1.0\n", said " v1.0.0\n", said "feat: a\x1e\n"]
        server := []
        today := ⟨2024, 3, 5, by decide, by decide, by decide⟩
        elapsed := .zero false }
    let settings : Settings :=
      { workspace := .ofText ".".text, commitTypes := Settings.defaultCommitTypes
        templatePath := none, changelogPath := .ofText Settings.defaultChangelogPath
        repository := none, token := .null, apiUrl := Settings.defaultApiUrl
        timeout := Settings.defaultTimeout }
    let calls := (options.collectFromGit world settings).transcript.gitCalls
    options.givenStart = none ∧
      calls.map (·.command) =
        [Git.describe "HEAD".text, Git.describe "v1.1.0^".text,
          Git.history "v1.0.0..HEAD".text true] ∧
      AsksForRange options world settings calls := by
  intro options said world settings calls
  have hcalls : calls.map (·.command) =
      [Git.describe "HEAD".text, Git.describe "v1.1.0^".text,
        Git.history "v1.0.0..HEAD".text true] := by
    decide +kernel
  exact ⟨rfl, hcalls, (tagRange_iff (Release.tagNames options.version) options.toRef world.git
    rfl).2.2⟩

/-- Git cannot be handed a revision that holds the byte zero. -/
theorem not_failsAsGit_nul :
    let revision := "a\x00b".text
    Git.IsStuck [] revision [.missing] ∧
      (Git.latestTag [] revision [.missing]).result = .error .nulInCommand ∧
      ¬ Git.FailsAsGit (Git.latestTag [] revision [.missing]) := by
  intro revision
  have hresult : (Git.latestTag [] revision [.missing]).result = .error .nulInCommand := by decide
  have hunexpected : ¬ Git.FailsAsGit (Git.latestTag [] revision [.missing]) :=
    fun h => nomatch h _ hresult
  exact ⟨of_not_not fun h => hunexpected (Git.failsAsGit_iff.mpr h), hresult, hunexpected⟩

end Options

end ReleaseNotes.CommandLine
