import ReleaseNotes.Files

namespace ReleaseNotes.FileTree

/-! What a change of the tree leaves as it was: what stands elsewhere, and the ways there. -/

/-- The bytes of the file at a place. -/
def fileAt? (tree : FileTree) (place : Location) : Option Bytes :=
  match tree.entry? place with
  | some (.file content) => some content
  | _ => none

theorem fileAt?_eq_some_iff {tree : FileTree} {place : Location} {content : Bytes} :
    tree.fileAt? place = some content ↔ tree.entry? place = some (.file content) := by
  unfold fileAt?
  constructor
  · intro h
    split at h
    · rename_i hentry
      cases h
      exact hentry
    · cases h
  · intro h
    rw [h]

theorem lookup_filter_ne {entries : List (Location × Entry)} {place other : Location}
    (h : other ≠ place) :
    (entries.filter fun known => known.1 ≠ place).lookup other = entries.lookup other := by
  induction entries with
  | nil => rfl
  | cons known entries ih =>
      obtain ⟨name, entry⟩ := known
      by_cases hname : name = place
      · have hother : (other == name) = false := beq_false_of_ne (hname ▸ h)
        rw [List.filter_cons_of_neg (by simp [hname]), List.lookup_cons, hother, ih]
      · rw [List.filter_cons_of_pos (by simp [hname]), List.lookup_cons, List.lookup_cons, ih]

theorem entry?_set_self {place : Location} (hplace : place ≠ []) (tree : FileTree) (entry : Entry) :
    FileTree.entry? (tree.set place entry) place = some entry := by
  cases place with
  | nil => exact absurd rfl hplace
  | cons name above => exact List.lookup_cons_self

theorem entry?_set_of_ne {place other : Location} (h : other ≠ place) (tree : FileTree)
    (entry : Entry) : FileTree.entry? (tree.set place entry) other = tree.entry? other := by
  cases other with
  | nil => rfl
  | cons name above =>
      show ((place, entry) :: tree.entries.filter fun known => known.1 ≠ place).lookup _ = _
      rw [List.lookup_cons, beq_false_of_ne h]
      exact lookup_filter_ne h

/-! Adding folders changes no file. -/

theorem fileAt?_set_folder {tree : FileTree} {place : Location} (h : tree.entry? place = none) :
    (tree.set place .folder).fileAt? = tree.fileAt? := by
  funext other
  unfold fileAt?
  by_cases hother : other = place
  · have hplace : place ≠ [] := by
      rintro rfl
      cases h
    rw [hother, entry?_set_self hplace, h]
  · rw [entry?_set_of_ne hother]

theorem addFolderAt_eq_ok {tree added : FileTree} {place location : Location}
    (h : tree.addFolderAt place = .ok (added, location)) :
    tree.entry? place = none ∧ added = tree.set place .folder ∧ location = place := by
  unfold addFolderAt at h
  split at h
  · cases h
  · rename_i hentry
    cases h
    exact ⟨hentry, rfl, rfl⟩

/-- What adding one folder may lead to: files are as they were, and so is the base. -/
def KeepsFiles (tree : FileTree) (result : Except FileFault (FileTree × Location)) : Prop :=
  ∀ added place, result = .ok (added, place) →
    added.fileAt? = tree.fileAt? ∧ added.base = tree.base

theorem keepsFiles_addFolderAt (tree : FileTree) (place : Location) :
    tree.KeepsFiles (tree.addFolderAt place) := by
  intro added location h
  obtain ⟨hentry, rfl, rfl⟩ := addFolderAt_eq_ok h
  exact ⟨fileAt?_set_folder hentry, rfl⟩

theorem keepsFiles_bind {tree : FileTree} (located : Except FileFault Location) :
    tree.KeepsFiles (located.bind tree.addFolderAt) := by
  cases located with
  | error fault =>
      intro added place h
      cases h
  | ok place => exact keepsFiles_addFolderAt tree place

theorem files_addedOrThere {tree : FileTree} {result : Except FileFault (FileTree × Location)}
    (h : tree.KeepsFiles result) (path : Path) :
    (tree.addedOrThere path result).1.fileAt? = tree.fileAt? ∧
      (tree.addedOrThere path result).1.base = tree.base := by
  cases result with
  | error fault => exact ⟨rfl, rfl⟩
  | ok added => exact h added.1 added.2 rfl

theorem addFoldersNamed_of_missing_error {tree outer : FileTree} {slashes count : Nat} {name : Text}
    {above : List Text} {error : FileError}
    (h : tree.addFolder ⟨slashes, (name :: above).reverse⟩ = .error .missing)
    (habove : tree.addFoldersNamed slashes count above = (outer, .error error)) :
    tree.addFoldersNamed slashes (count + 1) (name :: above) = (outer, .error error) := by
  simp only [addFoldersNamed, h, habove]

theorem addFoldersNamed_of_missing_ok {tree outer : FileTree} {slashes count : Nat} {name : Text}
    {above : List Text} {place : Location}
    (h : tree.addFolder ⟨slashes, (name :: above).reverse⟩ = .error .missing)
    (habove : tree.addFoldersNamed slashes count above = (outer, .ok place)) :
    tree.addFoldersNamed slashes (count + 1) (name :: above) =
      outer.addedOrThere ⟨slashes, (name :: above).reverse⟩
        ((outer.walk place [name]).bind outer.addFolderAt) := by
  simp only [addFoldersNamed, h, habove]

theorem addFoldersNamed_of_ne_missing {tree : FileTree} {slashes : Nat} {names : List Text}
    (h : tree.addFolder ⟨slashes, names.reverse⟩ ≠ .error .missing) (count : Nat) :
    tree.addFoldersNamed slashes (count + 1) names =
      tree.addedOrThere ⟨slashes, names.reverse⟩ (tree.addFolder ⟨slashes, names.reverse⟩) := by
  cases names with
  | nil => rfl
  | cons name above =>
      simp only [addFoldersNamed]

theorem files_addFoldersNamed (tree : FileTree) (slashes count : Nat) (names : List Text) :
    (tree.addFoldersNamed slashes count names).1.fileAt? = tree.fileAt? ∧
      (tree.addFoldersNamed slashes count names).1.base = tree.base := by
  induction count generalizing names with
  | zero => exact ⟨rfl, rfl⟩
  | succ count ih =>
      by_cases hadded : tree.addFolder ⟨slashes, names.reverse⟩ = .error .missing
      · cases names with
        | nil => exact files_addedOrThere (keepsFiles_bind _) _
        | cons name above =>
            obtain ⟨hfiles, hbase⟩ := ih above
            cases habove : tree.addFoldersNamed slashes count above with
            | mk outer result =>
                rw [habove] at hfiles hbase
                cases result with
                | error error =>
                    rw [addFoldersNamed_of_missing_error hadded habove]
                    exact ⟨hfiles, hbase⟩
                | ok place =>
                    obtain ⟨hinner, hinnerBase⟩ := files_addedOrThere
                      (keepsFiles_bind (outer.walk place [name])) ⟨slashes, (name :: above).reverse⟩
                    rw [addFoldersNamed_of_missing_ok hadded habove]
                    exact ⟨hinner.trans hfiles, hinnerBase.trans hbase⟩
      · rw [addFoldersNamed_of_ne_missing hadded]
        exact files_addedOrThere (keepsFiles_bind _) _

theorem files_addFolders (tree : FileTree) (path : Path) :
    (tree.addFolders path).1.fileAt? = tree.fileAt? ∧
      (tree.addFolders path).1.base = tree.base := by
  unfold addFolders
  split
  · exact ⟨rfl, rfl⟩
  · exact files_addFoldersNamed tree path.slashes folderLimit path.names.reverse

theorem readBytes_eq_ok_iff {tree : FileTree} {path : Path} {bytes : Bytes} :
    tree.readBytes path = .ok bytes ↔
      path.check = .ok () ∧ ∃ place, tree.locate path = .ok place ∧
        tree.entry? place = some (.file bytes) := by
  constructor
  · intro h
    cases hcheck : path.check with
    | error error =>
        rw [readBytes, hcheck] at h
        cases h
    | ok asked =>
        rw [readBytes, hcheck, find] at h
        cases hlocate : tree.locate path with
        | error fault =>
            rw [hlocate] at h
            cases h
        | ok place =>
            cases hentry : tree.entry? place with
            | none =>
                simp only [hlocate, bind, Except.bind, hentry] at h
                cases h
            | some entry =>
                simp only [hlocate, bind, Except.bind, hentry] at h
                cases entry with
                | folder => cases h
                | file content =>
                    cases h
                    exact ⟨rfl, place, rfl, hentry⟩
  · rintro ⟨hcheck, place, hlocate, hentry⟩
    simp only [readBytes, find, hcheck, hlocate, bind, Except.bind, hentry]

/-! Writing a file changes the file at its place and nothing else. -/

theorem placeForFile_eq_ok {tree : FileTree} {path : Path} {place : Location}
    (h : tree.placeForFile path = .ok place) :
    tree.locate path = .ok place ∧ tree.entry? place ≠ some .folder := by
  unfold placeForFile at h
  split at h
  · cases h
  · split at h
    · cases h
    · rename_i hlocate
      split at h
      · cases h
      · rename_i hentry
        cases h
        exact ⟨hlocate, hentry⟩

theorem check_of_placeForFile {tree : FileTree} {path : Path} {place : Location}
    (h : tree.placeForFile path = .ok place) : path.check = .ok () := by
  cases hcheck : path.check with
  | error error =>
      rw [placeForFile, hcheck] at h
      cases h
  | ok asked => rfl

theorem ne_nil_of_entry? {tree : FileTree} {place : Location}
    (h : tree.entry? place ≠ some .folder) : place ≠ [] := by
  rintro rfl
  exact h rfl

theorem fileAt?_set_file {place : Location} (hplace : place ≠ []) (tree : FileTree)
    (content : Bytes) (other : Location) :
    (tree.set place (.file content)).fileAt? other =
      if other = place then some content else tree.fileAt? other := by
  by_cases hother : other = place
  · rw [if_pos hother, hother]
    exact fileAt?_eq_some_iff.mpr (entry?_set_self hplace tree _)
  · rw [if_neg hother]
    unfold fileAt?
    rw [entry?_set_of_ne hother]

theorem folder_of_walk {tree : FileTree} {start last : Location} {name : Text} {names : List Text}
    (h : tree.walk start (name :: names) = .ok last) : tree.entry? start = some .folder := by
  rw [walk] at h
  split at h
  · cases h
  · cases h
  · assumption

/-- A way through folders only does not pass a place where none is. -/
theorem walk_set {tree : FileTree} {place : Location} (h : tree.entry? place ≠ some .folder)
    (entry : Entry) {start last : Location} {names : List Text}
    (hwalk : tree.walk start names = .ok last) :
    (tree.set place entry).walk start names = .ok last := by
  induction names generalizing start with
  | nil => exact hwalk
  | cons name names ih =>
      have hfolder := folder_of_walk hwalk
      have hstart : start ≠ place := by
        rintro rfl
        exact h hfolder
      unfold walk at hwalk ⊢
      rw [entry?_set_of_ne hstart, hfolder]
      rw [hfolder] at hwalk
      simp only at hwalk ⊢
      split
      · rename_i hlong
        rw [if_pos hlong] at hwalk
        cases hwalk
      · rename_i hshort
        rw [if_neg hshort] at hwalk
        exact ih hwalk

theorem locate_set {tree : FileTree} {place : Location} (h : tree.entry? place ≠ some .folder)
    (entry : Entry) {path : Path} {last : Location} (hlocate : tree.locate path = .ok last) :
    (tree.set place entry).locate path = .ok last := by
  unfold locate at hlocate ⊢
  split
  · rename_i hlong
    rw [if_pos hlong] at hlocate
    cases hlocate
  · rename_i hshort
    rw [if_neg hshort] at hlocate
    exact walk_set h entry hlocate

end ReleaseNotes.FileTree
