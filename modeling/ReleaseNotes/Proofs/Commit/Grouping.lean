import Mathlib.Algebra.GroupWithZero.Nat
import Mathlib.Data.List.Induction
import Mathlib.Data.List.Perm.Basic
import ReleaseNotes.Commit

namespace ReleaseNotes

namespace Groups

variable (categories : Categories) (commits : List Commit)

/-- The commits whose type the mapping knows. -/
def known : List Commit :=
  commits.filter fun commit => categories.contains commit.type

/-- The lines of the commits of one type, in the order of the commits. -/
def linesOf (type : Text) (commits : List Commit) : List Text :=
  (commits.filter fun commit => commit.type = type).map Commit.line

theorem ofCommits_concat (commit : Commit) :
    ofCommits categories (commits ++ [commit]) =
      if categories.contains commit.type then (ofCommits categories commits).add commit
      else ofCommits categories commits := by
  simp [ofCommits]

theorem known_concat (commit : Commit) :
    known categories (commits ++ [commit]) =
      if categories.contains commit.type then known categories commits ++ [commit]
      else known categories commits := by
  cases h : categories.contains commit.type with
  | false => simp [known, h]
  | true => simp [known, h]

theorem linesOf_concat (type : Text) (commit : Commit) :
    linesOf type (commits ++ [commit]) =
      if type = commit.type then linesOf type commits ++ [commit.line]
      else linesOf type commits := by
  by_cases h : type = commit.type
  · simp [linesOf, h]
  · simp [linesOf, h, Ne.symm h]

theorem eraseDups_concat (types : List Text) (type : Text) :
    (types ++ [type]).eraseDups =
      if type ∈ types.eraseDups then types.eraseDups else types.eraseDups ++ [type] := by
  have hmem : type ∈ types.eraseDups ↔ type ∈ types := List.mem_eraseDups
  rw [List.eraseDups_append]
  by_cases h : type ∈ types
  · rw [if_pos (hmem.mpr h)]
    simp [List.cons_removeAll, h]
  · rw [if_neg fun hdup => h (hmem.mp hdup)]
    simp [List.cons_removeAll, List.eraseDups_cons, h]

theorem keys_ofCommits :
    (ofCommits categories commits).keys =
      ((known categories commits).map Commit.type).eraseDups := by
  induction commits using List.reverseRecOn with
  | nil => rfl
  | append_singleton commits commit ih =>
      rw [ofCommits_concat, known_concat]
      split
      · rw [add, Table.keys_put, ih, List.map_append]
        exact (eraseDups_concat _ _).symm
      · exact ih

theorem getD_get?_ofCommits (type : Text) :
    ((ofCommits categories commits).get? type).getD [] =
      linesOf type (known categories commits) := by
  induction commits using List.reverseRecOn with
  | nil => rfl
  | append_singleton commits commit ih =>
      rw [ofCommits_concat, known_concat]
      split
      · rw [add, Table.get?_put, linesOf_concat, ← ih]
        by_cases h : type = commit.type
        · rw [if_pos h, if_pos h, h]
          rfl
        · rw [if_neg h, if_neg h]
      · exact ih

theorem contains_ofCommits (type : Text) :
    (ofCommits categories commits).contains type =
      (known categories commits).any fun commit => commit.type = type := by
  rw [Bool.eq_iff_iff, Table.contains_iff, keys_ofCommits, List.mem_eraseDups, List.mem_map,
    List.any_eq_true]
  simp only [decide_eq_true_eq]

/-- The types under which some commit stands, in the order of their sections. -/
def sectionTypes (order : SectionOrder) (categories : Categories) (commits : List Commit) :
    List Text :=
  match order with
  | .firstSeen => (commits.map Commit.type).eraseDups
  | .declaration => categories.keys.filter fun type => commits.any fun commit => commit.type = type

theorem entries_ordered (order : SectionOrder) :
    (ordered order categories commits).entries =
      (sectionTypes order categories (known categories commits)).map fun type =>
        (type, linesOf type (known categories commits)) := by
  cases order with
  | firstSeen =>
      rw [ordered, Table.entries_eq_map _ [], keys_ofCommits, sectionTypes]
      simp only [getD_get?_ofCommits]
  | declaration =>
      rw [ordered, Table.entries_arranged _ _ [], sectionTypes]
      simp only [getD_get?_ofCommits, contains_ofCommits]

theorem keys_ordered (order : SectionOrder) :
    (ordered order categories commits).keys =
      sectionTypes order categories (known categories commits) := by
  rw [Table.keys, entries_ordered, List.map_map]
  exact List.map_id _

theorem nodup_sectionTypes {categories : Categories} {commits : List Commit}
    (htypes : ∀ commit ∈ commits, categories.contains commit.type = true) (order : SectionOrder) :
    (sectionTypes order categories commits).Nodup := by
  have hknown : known categories commits = commits := List.filter_eq_self.mpr htypes
  have hkeys := keys_ordered categories commits order
  rw [hknown] at hkeys
  exact hkeys ▸ (ordered order categories commits).distinct

theorem mem_sectionTypes {order : SectionOrder} {type : Text}
    (htypes : ∀ commit ∈ commits, categories.contains commit.type = true) :
    type ∈ sectionTypes order categories commits ↔ ∃ commit ∈ commits, commit.type = type := by
  cases order with
  | firstSeen => rw [sectionTypes, List.mem_eraseDups, List.mem_map]
  | declaration =>
      rw [sectionTypes, List.mem_filter, List.any_eq_true, ← Table.contains_iff]
      simp only [decide_eq_true_eq]
      constructor
      · exact And.right
      · rintro ⟨commit, hcommit, rfl⟩
        exact ⟨htypes commit hcommit, commit, hcommit, rfl⟩

theorem contains_of_mem_ordered {order : SectionOrder} {categories : Categories}
    {commits : List Commit} {type : Text} (h : type ∈ (ordered order categories commits).keys) :
    categories.contains type = true := by
  have hknown : ∀ commit ∈ known categories commits, categories.contains commit.type = true :=
    fun _ hcommit => (List.mem_filter.mp hcommit).2
  rw [keys_ordered, mem_sectionTypes _ _ hknown] at h
  obtain ⟨commit, hcommit, rfl⟩ := h
  exact hknown commit hcommit

/-- Sorting commits by distinct types that cover them all keeps every commit, and keeps it once. -/
theorem flatMap_filter_perm {types : List Text} {commits : List Commit} (hdistinct : types.Nodup)
    (htypes : ∀ commit ∈ commits, commit.type ∈ types) :
    (types.flatMap fun type => commits.filter fun commit => commit.type = type).Perm commits := by
  induction types generalizing commits with
  | nil =>
      cases commits with
      | nil => exact List.Perm.refl _
      | cons commit commits =>
          exact absurd (htypes commit List.mem_cons_self) List.not_mem_nil
  | cons type types ih =>
      obtain ⟨hfresh, hdistinct⟩ := List.nodup_cons.mp hdistinct
      let others := commits.filter fun commit => !decide (commit.type = type)
      have hothers : ∀ commit ∈ others, commit.type ∈ types := by
        intro commit hcommit
        obtain ⟨hmem, hne⟩ := List.mem_filter.mp hcommit
        cases List.mem_cons.mp (htypes commit hmem) with
        | inl heq => simp [heq] at hne
        | inr h => exact h
      have hrest : (types.flatMap fun other =>
          commits.filter fun commit => commit.type = other) =
          types.flatMap fun other => others.filter fun commit => commit.type = other := by
        apply List.flatMap_congr
        intro other hother
        rw [List.filter_filter]
        apply List.filter_congr
        intro commit _
        by_cases h : commit.type = other
        · have hne : commit.type ≠ type := fun heq => hfresh (heq ▸ h ▸ hother)
          simp [h, h ▸ hne]
        · simp [h]
      rw [List.flatMap_cons, hrest]
      exact ((ih hdistinct hothers).append_left _).trans (List.filter_append_perm _ commits)

/-!
Grouping sorts the commits of the known types and loses none of them. The two orders of the sections
give the same sections.
-/

/-- Under each known type that some commit has stand the lines of these commits, in their order. -/
structure Partitions (categories : Categories) (commits : List Commit) (groups : Groups) :
    Prop where
  mem_keys : ∀ type, type ∈ groups.keys ↔
    type ∈ categories.keys ∧ ∃ commit ∈ commits, commit.type = type
  lines : ∀ type lines, (type, lines) ∈ groups.entries → lines = linesOf type commits
  distinct : groups.keys.Nodup
  filled : ∀ entry ∈ groups.entries, entry.2 ≠ []
  total : (groups.entries.map fun entry => entry.2.length).sum =
    (commits.filter fun commit => commit.type ∈ categories.keys).length

theorem mem_known {commit : Commit} :
    commit ∈ known categories commits ↔ commit ∈ commits ∧ commit.type ∈ categories.keys := by
  rw [known, List.mem_filter, Table.contains_iff]

theorem known_eq_filter :
    known categories commits = commits.filter fun commit => commit.type ∈ categories.keys := by
  apply List.filter_congr
  intro commit _
  rw [Bool.eq_iff_iff, Table.contains_iff, decide_eq_true_iff]

theorem linesOf_known {type : Text} (h : type ∈ categories.keys) :
    linesOf type (known categories commits) = linesOf type commits := by
  rw [linesOf, known, List.filter_filter]
  congr 1
  apply List.filter_congr
  intro commit _
  by_cases htype : commit.type = type
  · simp [htype, Table.contains_iff.mpr h]
  · simp [htype]

theorem mem_keys_ordered (order : SectionOrder) (type : Text) :
    type ∈ (ordered order categories commits).keys ↔
      type ∈ categories.keys ∧ ∃ commit ∈ commits, commit.type = type := by
  have hknown : ∀ commit ∈ known categories commits, categories.contains commit.type = true :=
    fun _ hcommit => (List.mem_filter.mp hcommit).2
  rw [keys_ordered, mem_sectionTypes _ _ hknown]
  constructor
  · rintro ⟨commit, hcommit, rfl⟩
    obtain ⟨hmem, htype⟩ := (mem_known categories commits).mp hcommit
    exact ⟨htype, commit, hmem, rfl⟩
  · rintro ⟨htype, commit, hmem, rfl⟩
    exact ⟨commit, (mem_known categories commits).mpr ⟨hmem, htype⟩, rfl⟩

theorem entries_ordered_eq_map (order : SectionOrder) :
    (ordered order categories commits).entries =
      (ordered order categories commits).keys.map fun type => (type, linesOf type commits) := by
  rw [entries_ordered, ← keys_ordered]
  apply List.map_congr_left
  intro type htype
  rw [linesOf_known categories commits ((mem_keys_ordered _ _ _ _).mp htype).1]

theorem length_lines_ordered (order : SectionOrder) :
    ((ordered order categories commits).entries.map fun entry => entry.2.length).sum =
      (known categories commits).length := by
  have hdistinct : (ordered order categories commits).keys.Nodup := Table.distinct _
  have htypes : ∀ commit ∈ known categories commits,
      commit.type ∈ (ordered order categories commits).keys := by
    intro commit hcommit
    obtain ⟨hmem, htype⟩ := (mem_known categories commits).mp hcommit
    exact (mem_keys_ordered categories commits order _).mpr ⟨htype, commit, hmem, rfl⟩
  rw [← (flatMap_filter_perm hdistinct htypes).length_eq, List.length_flatMap, entries_ordered,
    ← keys_ordered, List.map_map]
  simp only [linesOf, Function.comp_def, List.length_map]

theorem partitions_ordered (order : SectionOrder) :
    Partitions categories commits (ordered order categories commits) where
  mem_keys := mem_keys_ordered categories commits order
  lines := by
    intro type lines hentry
    rw [entries_ordered_eq_map] at hentry
    obtain ⟨_, _, heq⟩ := List.mem_map.mp hentry
    cases heq
    rfl
  distinct := (ordered order categories commits).distinct
  filled := by
    intro entry hentry
    rw [entries_ordered_eq_map] at hentry
    obtain ⟨type, htype, rfl⟩ := List.mem_map.mp hentry
    obtain ⟨-, commit, hcommit, hof⟩ := (mem_keys_ordered _ _ _ _).mp htype
    exact List.ne_nil_of_mem
      (List.mem_map_of_mem (List.mem_filter.mpr ⟨hcommit, decide_eq_true hof⟩))
  total := by
    rw [length_lines_ordered, known_eq_filter]

/-! The order of the sections. -/

/-- What is left without repetitions comes in the order of the first places. -/
theorem pairwise_eraseDups (p : Text → Bool) (types : List Text) :
    (types.filter p).eraseDups.Pairwise fun earlier later =>
      types.idxOf earlier < types.idxOf later := by
  induction types using List.reverseRecOn with
  | nil => exact List.Pairwise.nil
  | append_singleton types type ih =>
      have hmem : ∀ {key}, key ∈ (types.filter p).eraseDups → key ∈ types := fun hkey =>
        (List.mem_filter.mp (List.mem_eraseDups.mp hkey)).1
      have hkept : (types.filter p).eraseDups.Pairwise fun earlier later =>
          (types ++ [type]).idxOf earlier < (types ++ [type]).idxOf later := by
        refine ih.imp_of_mem fun hearlier hlater hlt => ?_
        rw [List.idxOf_append_of_mem (hmem hearlier), List.idxOf_append_of_mem (hmem hlater)]
        exact hlt
      rw [List.filter_append]
      by_cases hp : p type = true
      · rw [List.filter_cons_of_pos hp, List.filter_nil, eraseDups_concat]
        split
        · exact hkept
        · rename_i hnew
          have hfresh : type ∉ types := fun htype =>
            hnew (List.mem_eraseDups.mpr (List.mem_filter.mpr ⟨htype, hp⟩))
          refine List.pairwise_append.mpr ⟨hkept, List.pairwise_singleton _ _, ?_⟩
          intro key hkey last hlast
          rw [List.mem_singleton] at hlast
          rw [hlast, List.idxOf_append_of_mem (hmem hkey), List.idxOf_append_of_notMem hfresh]
          exact Nat.lt_add_right _ (List.idxOf_lt_length_of_mem (hmem hkey))
      · rw [List.filter_cons_of_neg hp, List.filter_nil, List.append_nil]
        exact hkept

theorem keys_firstSeen :
    (ordered .firstSeen categories commits).keys =
      ((commits.map Commit.type).filter categories.contains).eraseDups := by
  rw [keys_ordered, sectionTypes, known, List.filter_map]
  rfl

/-- Either way the commits of the known types are sorted by their types. Sections stand in the order
in which the types first came, or in that of the mapping, and are the same sections. -/
theorem ordered_partitions :
    (∀ order, Partitions categories commits (ordered order categories commits)) ∧
      (ordered .firstSeen categories commits).keys.Pairwise (fun earlier later =>
        (commits.map Commit.type).idxOf earlier < (commits.map Commit.type).idxOf later) ∧
      (ordered .declaration categories commits).keys.Sublist categories.keys ∧
      (ordered .firstSeen categories commits).entries.Perm
        (ordered .declaration categories commits).entries := by
  refine ⟨partitions_ordered categories commits, ?_, ?_, ?_⟩
  · rw [keys_firstSeen]
    exact pairwise_eraseDups categories.contains (commits.map Commit.type)
  · rw [keys_ordered, sectionTypes]
    exact List.filter_sublist
  · rw [entries_ordered_eq_map, entries_ordered_eq_map]
    apply List.Perm.map
    refine (List.perm_ext_iff_of_nodup (partitions_ordered _ _ _).distinct
      (partitions_ordered _ _ _).distinct).mpr fun type => ?_
    rw [mem_keys_ordered, mem_keys_ordered]

end Groups

end ReleaseNotes
