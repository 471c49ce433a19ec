import Mathlib.Data.List.Forall2
import ReleaseNotes.History.Git

namespace ReleaseNotes.Git

/-!
The search for the latest tag, call by call. It walks past tags that are to be passed over, each
time to the parent of the tag that was named, until an answer ends it.
-/

/-- Git names a tag that is to be passed over. -/
inductive PassesOver (excluded : List Text) : Answer → Text → Prop
  | tag {out err : Bytes} {tag : Text} :
      Text.strip (Answer.readOutput out) = tag → tag ≠ [] → tag ∈ excluded →
      PassesOver excluded (.ran 0 out err) tag

/-- The answer to what was asked of `revision` ends the search. -/
inductive EndsSearch (excluded : List Text) (revision : Text) :
    Answer → Except Error (Option Text) → Prop
  | notStarted : EndsSearch excluded revision .missing (.error (startError (describe revision)))
  | failed {status : Int} {out err : Bytes} :
      status ≠ 0 → EndsSearch excluded revision (.ran status out err) (.ok none)
  | blank {out err : Bytes} :
      Text.strip (Answer.readOutput out) = [] →
      EndsSearch excluded revision (.ran 0 out err) (.ok none)
  | found {out err : Bytes} {tag : Text} :
      Text.strip (Answer.readOutput out) = tag → tag ≠ [] → tag ∉ excluded →
      EndsSearch excluded revision (.ran 0 out err) (.ok (some tag))

/-- What is asked about, one revision after the other. -/
def walked (revision : Text) (tags : List Text) : List Text :=
  revision :: tags.map parentOf

/-- Where the walk ends. -/
def reached (revision : Text) (tags : List Text) : Text :=
  (walked revision tags).getLast (List.cons_ne_nil _ _)

@[simp] theorem walked_nil (revision : Text) : walked revision [] = [revision] := rfl

@[simp] theorem walked_cons (revision tag : Text) (tags : List Text) :
    walked revision (tag :: tags) = revision :: walked (parentOf tag) tags := rfl

@[simp] theorem reached_nil (revision : Text) : reached revision [] = revision := rfl

@[simp] theorem reached_cons (revision tag : Text) (tags : List Text) :
    reached revision (tag :: tags) = reached (parentOf tag) tags := rfl

/-- The search passed over `tags`, named by the answers `passed`, and then `last` ended it. -/
structure Walk (excluded : List Text) (revision : Text) (answers passed : List Answer)
    (tags : List Text) (last : Answer) (outcome : Outcome (Option Text)) : Prop where
  given : passed ++ [last] <+: answers ++ [.exhausted]
  passes : List.Forall₂ (PassesOver excluded) passed tags
  ends : EndsSearch excluded (reached revision tags) last outcome.result
  calls : outcome.exchanges =
    List.zipWith (fun revision answer => ⟨describe revision, answer⟩) (walked revision tags)
      (passed ++ [last])
  left : outcome.answers = answers.drop (passed.length + 1)

variable {excluded : List Text} {revision tag : Text} {answer : Answer} {answers : List Answer}
  {result : Except Error (Option Text)}

/-- There is no third way: an answer that passes over no tag is the last one. -/
theorem passesOver_or_endsSearch (excluded : List Text) (revision : Text) (answer : Answer) :
    (∃ tag, PassesOver excluded answer tag) ∨ ∃ result, EndsSearch excluded revision answer result := by
  cases answer with
  | missing => exact .inr ⟨_, .notStarted⟩
  | ran status out err =>
      by_cases hstatus : status = 0
      · subst hstatus
        by_cases hblank : Text.strip (Answer.readOutput out) = []
        · exact .inr ⟨_, .blank hblank⟩
        · by_cases hexcluded : Text.strip (Answer.readOutput out) ∈ excluded
          · exact .inl ⟨_, .tag rfl hblank hexcluded⟩
          · exact .inr ⟨_, .found rfl hblank hexcluded⟩
      · exact .inr ⟨_, .failed hstatus⟩

theorem latestTag_of_passesOver (h : PassesOver excluded answer tag) (revision : Text)
    (answers : List Answer) :
    latestTag excluded revision (answer :: answers) =
      let rest := latestTag excluded (parentOf tag) answers
      ⟨rest.result, ⟨describe revision, answer⟩ :: rest.exchanges, rest.answers,
        tagLog revision answer ++ rest.log⟩ := by
  obtain ⟨htag, hsaid, hexcluded⟩ := h
  have hnamed : ∀ err, (Answer.ran 0 _ err).tag = .tag tag := fun _ => congrArg TagAnswer.tag htag
  rw [latestTag]
  simp only [hnamed, List.contains_iff_mem.mpr hexcluded, if_true]

theorem latestTag_of_endsSearch (h : EndsSearch excluded revision answer result)
    (answers : List Answer) :
    latestTag excluded revision (answer :: answers) =
      ⟨result, [⟨describe revision, answer⟩], answers, tagLog revision answer⟩ := by
  cases h with
  | notStarted => rfl
  | failed hstatus =>
      rw [latestTag]
      simp only [Answer.tag, hstatus, if_false]
  | blank hblank =>
      rw [latestTag]
      simp only [Answer.tag, if_true, hblank]
  | found htag hsaid hexcluded =>
      rw [latestTag]
      simp only [Answer.tag, if_true, htag]
      simp [hexcluded]

/-- The search in one queue goes on from where the search in its front has come to. -/
theorem result_latestTag_append {passed : List Answer} {tags : List Text}
    (h : List.Forall₂ (PassesOver excluded) passed tags) (revision : Text)
    (answers : List Answer) :
    (latestTag excluded revision (passed ++ answers)).result =
      (latestTag excluded (reached revision tags) answers).result := by
  induction h generalizing revision with
  | nil => rfl
  | cons hpasses _ ih =>
      rw [List.cons_append, latestTag_of_passesOver hpasses, reached_cons]
      exact ih _

namespace Walk

variable {passed : List Answer} {tags : List Text} {last : Answer}
  {outcome : Outcome (Option Text)}

theorem nil (excluded : List Text) (revision : Text) :
    Walk excluded revision [] [] [] .exhausted (latestTag excluded revision []) where
  given := List.prefix_rfl
  passes := .nil
  ends := .failed (by decide)
  calls := rfl
  left := rfl

theorem ended (h : EndsSearch excluded revision answer result) (answers : List Answer) :
    Walk excluded revision (answer :: answers) [] [] answer
      (latestTag excluded revision (answer :: answers)) := by
  rw [latestTag_of_endsSearch h]
  exact ⟨List.prefix_append _ _, .nil, h, rfl, rfl⟩

theorem step (h : PassesOver excluded answer tag)
    (hwalk : Walk excluded (parentOf tag) answers passed tags last
      (latestTag excluded (parentOf tag) answers)) :
    Walk excluded revision (answer :: answers) (answer :: passed) (tag :: tags) last
      (latestTag excluded revision (answer :: answers)) := by
  rw [latestTag_of_passesOver h]
  refine ⟨List.cons_prefix_cons.mpr ⟨rfl, hwalk.given⟩, .cons h hwalk.passes, hwalk.ends, ?_,
    hwalk.left⟩
  exact congrArg (List.cons _) hwalk.calls

theorem length_exchanges (h : Walk excluded revision answers passed tags last outcome) :
    outcome.exchanges.length = passed.length + 1 := by
  rw [h.calls, List.length_zipWith, walked, List.length_cons, List.length_map,
    List.length_append, ← h.passes.length_eq]
  exact Nat.min_self _

/-- One call for each answer, and at most one more. -/
theorem length_exchanges_le (h : Walk excluded revision answers passed tags last outcome) :
    outcome.exchanges.length ≤ answers.length + 1 := by
  have hgiven := h.given.length_le
  simp only [List.length_append, List.length_singleton] at hgiven
  rw [h.length_exchanges]
  exact hgiven

theorem not_mem_excluded (h : Walk excluded revision answers passed tags last outcome)
    (htag : outcome.result = .ok (some tag)) : tag ∉ excluded := by
  have hends := h.ends
  rw [htag] at hends
  cases hends with
  | found _ _ hexcluded => exact hexcluded

/-- Unless the answers ran out, the last one was among them. -/
theorem exists_later (h : Walk excluded revision answers passed tags last outcome)
    (hlast : last ≠ .exhausted) : ∃ later, passed ++ [last] ++ later = answers := by
  obtain hall | hprefix := List.prefix_concat_iff.mp h.given
  · exact absurd (List.append_inj' hall rfl).2 (by simpa using hlast)
  · exact hprefix

end Walk

theorem exists_walk (excluded : List Text) (revision : Text) (answers : List Answer) :
    ∃ passed tags last, Walk excluded revision answers passed tags last
      (latestTag excluded revision answers) := by
  induction answers generalizing revision with
  | nil => exact ⟨_, _, _, .nil excluded revision⟩
  | cons answer answers ih =>
      obtain ⟨tag, hpasses⟩ | ⟨result, hends⟩ := passesOver_or_endsSearch excluded revision answer
      · obtain ⟨passed, tags, last, hwalk⟩ := ih (parentOf tag)
        exact ⟨_, _, _, .step hpasses hwalk⟩
      · exact ⟨_, _, _, .ended hends answers⟩

/-- Some bytes stand for the text, and none of them is the byte that ends an argument. -/
def IsArgument (text : Text) : Prop :=
  ∃ bytes, Utf8.encodeName text = .ok bytes ∧ 0 ∉ bytes

/-- Git cannot be found when it is to be asked about what it cannot be handed. -/
inductive IsStuck (excluded : List Text) (revision : Text) : List Answer → Prop
  | unaskable {passed later : List Answer} {tags : List Text} :
      List.Forall₂ (PassesOver excluded) passed tags → ¬ IsArgument (reached revision tags) →
      IsStuck excluded revision (passed ++ .missing :: later)

theorem argumentError?_eq_none_iff {text : Text} : argumentError? text = none ↔ IsArgument text := by
  unfold argumentError? IsArgument
  cases Utf8.encodeName text with
  | error obstacle => simp
  | ok bytes => simp

theorem isUnexpected_argumentError {text : Text} {error : Error}
    (h : argumentError? text = some error) : error.isUnexpected = true := by
  unfold argumentError? at h
  split at h
  · cases h
    rfl
  · split at h
    · cases h
      rfl
    · cases h

theorem isUnexpected_startError_describe {revision : Text} :
    (startError (describe revision)).isUnexpected = false ↔ IsArgument revision := by
  have hnone : ["describe".text, "--tags".text, "--abbrev=0".text].findSome? argumentError? =
      none := by
    decide
  have hrevision : startError (describe revision) = (argumentError? revision).getD .notFound := by
    show ((["describe".text, "--tags".text, "--abbrev=0".text] ++ [revision]).findSome?
      argumentError?).getD .notFound = _
    rw [List.findSome?_append, hnone, Option.none_or, List.findSome?_singleton]
  rw [hrevision, ← argumentError?_eq_none_iff]
  cases h : argumentError? revision with
  | none => exact ⟨fun _ => rfl, fun _ => rfl⟩
  | some error => simp [isUnexpected_argumentError h]

/-- Whatever ends the search other than an answer is a failure of Git. -/
def FailsAsGit (outcome : Outcome α) : Prop :=
  ∀ error, outcome.result = .error error → error.isUnexpected = false

theorem failsAsGit_iff :
    FailsAsGit (latestTag excluded revision answers) ↔ ¬ IsStuck excluded revision answers := by
  constructor
  · intro hexpected hstuck
    cases hstuck with
    | @unaskable passed later tags hpassed hargument =>
        have hresult := result_latestTag_append hpassed revision (.missing :: later)
        rw [latestTag_of_endsSearch .notStarted] at hresult
        exact hargument (isUnexpected_startError_describe.mp (hexpected _ hresult))
  · intro hstuck error herror
    obtain ⟨passed, tags, last, hwalk⟩ := exists_walk excluded revision answers
    have hends := hwalk.ends
    rw [herror] at hends
    cases hends
    refine isUnexpected_startError_describe.mpr (of_not_not fun hargument => hstuck ?_)
    obtain ⟨later, rfl⟩ := hwalk.exists_later nofun
    rw [List.append_assoc]
    exact .unaskable hwalk.passes hargument

/-- The search walks past the tags that are to be passed over, and it ends. -/
structure SearchesPast (excluded : List Text) (revision : Text) (answers : List Answer)
    (outcome : Outcome (Option Text)) : Prop where
  walk : ∃ passed tags last, Walk excluded revision answers passed tags last outcome
  ends : outcome.exchanges.length ≤ answers.length + 1
  keeps : ∀ tag, outcome.result = .ok (some tag) → tag ∉ excluded

theorem searchesPast_latestTag (excluded : List Text) (revision : Text) (answers : List Answer) :
    SearchesPast excluded revision answers (latestTag excluded revision answers) := by
  obtain ⟨passed, tags, last, hwalk⟩ := exists_walk excluded revision answers
  exact ⟨⟨passed, tags, last, hwalk⟩, hwalk.length_exchanges_le, fun _ => hwalk.not_mem_excluded⟩

end ReleaseNotes.Git
