import ReleaseNotes.History.Git
import ReleaseNotes.Proofs.Files.Descent

namespace ReleaseNotes.Git

/-!
Which repository a place belongs to. If the innermost entry for Git can be asked for at all, so can
those further out, and the search ends at the first place that holds one.
-/

/-- The innermost place with an entry for Git among a place and those around it, or none. -/
structure IsNearest (tree : FileTree) (place : Location) (found : Option Location) : Prop where
  longest : ∀ folder ∈ found, folder <:+ place ∧ tree.Holds folder ".git".text ∧
    ∀ other, other <:+ place → tree.Holds other ".git".text → other.length ≤ folder.length
  none_iff : found = none ↔ ∀ folder, folder <:+ place → ¬ tree.Holds folder ".git".text

/-- The search from a start ends with the nearest repository of the place that the start names. -/
def FindsNearest (tree : FileTree) (start : Text) : Prop :=
  ∃ found, repositoryOf tree (.ofText start) = .ok found ∧
    IsNearest tree (tree.placeNamed start) found

/-- What a start names can be asked for: each half of a pair in it stands for a byte, and no path or
name on the way is too long. -/
def CanAsk (tree : FileTree) (start : Text) : Prop :=
  (∀ half, Letter.surrogate half ∈ start → Utf8.isNameByte half = true) ∧
    ¬ tree.IsOutOfReach (".git".text :: tree.placeNamed start)

variable {tree : FileTree} {name : Text} {place outer : Location}

theorem isProper_git (h : FileTree.IsProper place) : FileTree.IsProper (".git".text :: place) :=
  List.forall_mem_cons.mpr ⟨⟨by decide, by decide⟩, h⟩

theorem size_placeText_le (h : outer <:+ place) (name : Text) :
    Utf8.size (FileTree.placeText (name :: outer)) ≤
      Utf8.size (FileTree.placeText (name :: place)) := by
  obtain ⟨front, rfl⟩ := h
  simp only [FileTree.placeText, List.reverse_cons, List.reverse_append, Text.joined_concat,
    Utf8.size, List.flatMap_append, List.length_append]
  omega

/-- The way to a place is longer than that to a place around it. -/
theorem isOutOfReach_of_suffix (h : tree.IsOutOfReach (".git".text :: outer))
    (hsuffix : outer <:+ place) : tree.IsOutOfReach (".git".text :: place) := by
  cases h with
  | inl hsize => exact .inl (Nat.lt_of_lt_of_le hsize (size_placeText_le hsuffix _))
  | inr hlong =>
      cases FileTree.isOverlong_cons_iff.mp hlong with
      | inl hgit => exact absurd hgit.2 (by decide)
      | inr houter =>
          exact .inr (FileTree.isOverlong_cons_iff.mpr (.inr (houter.of_suffix hsuffix)))

theorem isNearest_self (h : tree.Holds place ".git".text) : IsNearest tree place (some place) where
  longest := by
    rintro folder ⟨⟩
    exact ⟨List.suffix_rfl, h, fun other hother _ => hother.length_le⟩
  none_iff := ⟨nofun, fun hnone => absurd h (hnone place List.suffix_rfl)⟩

theorem isNearest_nil (h : ¬ tree.Holds [] ".git".text) : IsNearest tree [] none where
  longest := nofun
  none_iff := by
    refine ⟨fun _ folder hfolder => ?_, fun _ => rfl⟩
    rw [List.suffix_nil.mp hfolder]
    exact h

theorem IsNearest.cons {found : Option Location} (h : IsNearest tree outer found)
    (hname : ¬ tree.Holds (name :: outer) ".git".text) : IsNearest tree (name :: outer) found where
  longest := by
    intro folder hfound
    obtain ⟨hfolder, hholds, hlongest⟩ := h.longest folder hfound
    refine ⟨hfolder.trans (List.suffix_cons name outer), hholds, fun other hother hgit => ?_⟩
    cases List.suffix_cons_iff.mp hother with
    | inl heq => exact absurd (heq ▸ hgit) hname
    | inr habove => exact hlongest other habove hgit
  none_iff := by
    simp only [h.none_iff, List.suffix_cons_iff, forall_eq_or_imp, hname, not_false_eq_true,
      true_and]

/-- There is one innermost place at most: two of one length around a place are the same. -/
theorem IsNearest.unique {found other : Option Location} (h : IsNearest tree place found)
    (hother : IsNearest tree place other) : found = other := by
  cases found with
  | none => exact (hother.none_iff.mpr (h.none_iff.mp rfl)).symm
  | some folder =>
      cases other with
      | none => exact h.none_iff.mpr (hother.none_iff.mp rfl)
      | some second =>
          obtain ⟨hfolder, hholds, hlongest⟩ := h.longest folder rfl
          obtain ⟨hsecond, hsecondHolds, hsecondLongest⟩ := hother.longest second rfl
          have hle := hsecondLongest folder hfolder hholds
          have hlength := Nat.le_antisymm hle (hlongest second hsecond hsecondHolds)
          have hsuffix := List.suffix_of_suffix_length_le hfolder hsecond hle
          exact congrArg some (hsuffix.eq_of_length hlength)

theorem isNearest_none_iff : IsNearest tree place none ↔
    ∀ folder, folder <:+ place → ¬ tree.Holds folder ".git".text :=
  ⟨fun h => h.none_iff.mp rfl, fun h => ⟨nofun, fun _ => h, fun _ => rfl⟩⟩

theorem nearestRepository_of_not_isOutOfReach (hplace : FileTree.IsProper place)
    (h : ¬ tree.IsOutOfReach (".git".text :: place)) :
    ∃ found, nearestRepository tree place = .ok found ∧ IsNearest tree place found := by
  induction place with
  | nil =>
      obtain ⟨isOne, hasked, hholds⟩ := FileTree.exists?_of_not_isOutOfReach (isProper_git hplace) h
      rw [nearestRepository, isRepository, hasked]
      cases isOne with
      | false => exact ⟨none, rfl, isNearest_nil fun hgit => nomatch hholds.mpr hgit⟩
      | true => exact ⟨some [], rfl, isNearest_self (hholds.mp rfl)⟩
  | cons name outer ih =>
      obtain ⟨isOne, hasked, hholds⟩ := FileTree.exists?_of_not_isOutOfReach (isProper_git hplace) h
      rw [nearestRepository, isRepository, hasked]
      cases isOne with
      | true => exact ⟨some (name :: outer), rfl, isNearest_self (hholds.mp rfl)⟩
      | false =>
          have hreach : ¬ tree.IsOutOfReach (".git".text :: outer) :=
            fun hout => h (isOutOfReach_of_suffix hout (List.suffix_cons name outer))
          obtain ⟨found, hfound, hnearest⟩ := ih (List.forall_mem_cons.mp hplace).2 hreach
          exact ⟨found, hfound, hnearest.cons fun hself => nomatch hholds.mpr hself⟩

theorem nearestRepository_of_isOutOfReach (hplace : FileTree.IsProper place)
    (h : tree.IsOutOfReach (".git".text :: place)) :
    nearestRepository tree place =
      .error (.refused .nameTooLong (FileTree.placePath (".git".text :: place))) := by
  have hasked := FileTree.exists?_of_isOutOfReach (isProper_git hplace) h
  rw [← isRepository] at hasked
  cases place with
  | nil =>
      rw [nearestRepository, hasked]
      rfl
  | cons name outer => rw [nearestRepository, hasked]

/-- The search ends well exactly if the innermost entry for Git can be asked for, and then with the
nearest repository. -/
theorem repositoryOf_eq_ok_iff {start : Path} {found : Option Location} :
    repositoryOf tree start = .ok found ↔
      ∃ place, tree.resolve start = .ok place ∧ ¬ tree.IsOutOfReach (".git".text :: place) ∧
        IsNearest tree place found := by
  rw [repositoryOf]
  cases hresolve : tree.resolve start with
  | error error => simp
  | ok place =>
      have hplace := FileTree.isProper_resolve hresolve
      simp only [Except.ok.injEq, exists_eq_left']
      by_cases hreach : tree.IsOutOfReach (".git".text :: place)
      · simp [nearestRepository_of_isOutOfReach hplace hreach, hreach]
      · obtain ⟨nearest, hfound, hnearest⟩ := nearestRepository_of_not_isOutOfReach hplace hreach
        rw [hfound, Except.ok.injEq]
        constructor
        · rintro rfl
          exact ⟨hreach, hnearest⟩
        · exact fun h => hnearest.unique h.2

theorem isName_iff_halves {start : Text} (hzero : Letter.char '\x00' ∉ start) :
    Utf8.isName start = true ↔
      ∀ half, Letter.surrogate half ∈ start → Utf8.isNameByte half = true := by
  rw [Utf8.isName_iff]
  constructor
  · exact fun h half hhalf => h _ hhalf
  · intro h letter hletter
    cases letter with
    | char c =>
        rw [Utf8.isNameLetter, decide_eq_true_eq]
        rintro rfl
        exact hzero hletter
    | surrogate half => exact h half hletter

theorem repositoryOf_of_isName {start : Text} (h : Utf8.isName start = true) :
    repositoryOf tree (.ofText start) = nearestRepository tree (tree.placeNamed start) := by
  rw [repositoryOf, FileTree.resolve_ofText_eq_ok_iff.mpr ⟨h, rfl⟩]

theorem findsNearest_of_canAsk {start : Text} (hzero : Letter.char '\x00' ∉ start)
    (h : CanAsk tree start) : FindsNearest tree start := by
  have hname := (isName_iff_halves hzero).mpr h.1
  rw [FindsNearest, repositoryOf_of_isName hname]
  exact nearestRepository_of_not_isOutOfReach (FileTree.isProper_placeNamed hname) h.2

theorem exists_error_of_not_canAsk {start : Text} (hzero : Letter.char '\x00' ∉ start)
    (h : ¬ CanAsk tree start) :
    ∃ error, repositoryOf tree (.ofText start) = .error error := by
  by_cases hname : Utf8.isName start = true
  · have hreach : tree.IsOutOfReach (".git".text :: tree.placeNamed start) :=
      Classical.byContradiction fun hreach => h ⟨(isName_iff_halves hzero).mp hname, hreach⟩
    rw [repositoryOf_of_isName hname]
    exact ⟨_, nearestRepository_of_isOutOfReach (FileTree.isProper_placeNamed hname) hreach⟩
  · rw [repositoryOf]
    cases hresolve : tree.resolve (.ofText start) with
    | error error => exact ⟨error, rfl⟩
    | ok place => exact absurd (FileTree.resolve_ofText_eq_ok_iff.mp hresolve).1 hname

/-- The nearest repository is found exactly if the place that the start names can be asked for. If it
cannot, the search breaks off; it never ends with another answer. -/
theorem findsNearest_iff {start : Text} (hzero : Letter.char '\x00' ∉ start) :
    (FindsNearest tree start ↔ CanAsk tree start) ∧
      (FindsNearest tree start ∨ ∃ error, repositoryOf tree (.ofText start) = .error error) := by
  by_cases hask : CanAsk tree start
  · have hfinds := findsNearest_of_canAsk hzero hask
    exact ⟨iff_of_true hfinds hask, .inl hfinds⟩
  · obtain ⟨error, herror⟩ := exists_error_of_not_canAsk hzero hask
    refine ⟨iff_of_false ?_ hask, .inr ⟨error, herror⟩⟩
    rintro ⟨found, hfound, _⟩
    exact nomatch hfound.symm.trans herror

/-- The start is no folder, and its way passes a repository that it leads out of again. -/
theorem findsNearest_iff_nested :
    let outer := FileTree.plant (.emptyAt ["r".text]) (.ofText ".git".text) .folder
    let tree := outer.plant (.ofText "a/.git".text) (.file [])
    let start := "a/.././/b/missing/.".text
    Letter.char '\x00' ∉ start ∧ FindsNearest tree start ∧
      repositoryOf tree (.ofText start) = .ok (some ["r".text]) := by
  intro outer tree start
  have hzero : Letter.char '\x00' ∉ start := by decide
  have hshort : ∀ name ∈ ".git".text :: tree.placeNamed start,
      Utf8.size name ≤ FileTree.nameLimit := by decide +kernel
  have hpath : Utf8.size (FileTree.placeText (".git".text :: tree.placeNamed start)) ≤
      FileTree.pathLimit := by decide +kernel
  have hask : CanAsk tree start :=
    ⟨(isName_iff_halves hzero).mp (by decide), FileTree.not_isOutOfReach_of_short hpath hshort⟩
  exact ⟨hzero, (findsNearest_iff hzero).1.mpr hask, rfl⟩

/-- A start with a name of 256 letters is refused, though the folder around it is a repository. -/
theorem not_findsNearest_long_name :
    let tree := FileTree.plant (.emptyAt ["r".text]) (.ofText ".git".text) .folder
    let start : Text := List.replicate 256 'a'
    Letter.char '\x00' ∉ start ∧ tree.Holds ["r".text] ".git".text ∧
      repositoryOf tree (.ofText start) =
        .error (.refused .nameTooLong (FileTree.placePath [".git".text, start, "r".text])) ∧
      ¬ FindsNearest tree start := by
  intro tree start
  have hfolder : tree.IsFolder ["r".text] :=
    FileTree.isFolder_iff.mpr ⟨rfl, FileTree.isFolder_nil tree⟩
  have hname : Utf8.isName start = true := by decide +kernel
  have hplace : tree.placeNamed start = [start, "r".text] := by decide +kernel
  have hlong : tree.IsOverlong (tree.placeNamed start) :=
    ⟨start, ["r".text], hplace ▸ List.suffix_rfl, hfolder, by decide +kernel⟩
  have hreach : tree.IsOutOfReach (".git".text :: tree.placeNamed start) :=
    .inr (hlong.of_suffix (List.suffix_cons _ _))
  have hrefused := (repositoryOf_of_isName hname).trans
    (nearestRepository_of_isOutOfReach (FileTree.isProper_placeNamed hname) hreach)
  rw [hplace] at hrefused
  refine ⟨by decide +kernel, ⟨hfolder, by decide⟩, hrefused, ?_⟩
  rintro ⟨found, hfound, _⟩
  exact nomatch hfound.symm.trans hrefused

end ReleaseNotes.Git
