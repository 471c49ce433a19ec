import Mathlib.Logic.Function.Iterate
import ReleaseNotes.Proofs.Files.Asked

namespace ReleaseNotes.FileTree

/-!
Which folders can be added. On the way down to them there must be no file and no name that is too
long, and no more of them may be missing than can be added at once. All that matters of the tree is
where its files are, so folders that are added on the way change nothing about it.
-/

/-- One name further down, or up again. -/
def step (place : Location) (name : Text) : Location :=
  if name = "..".text then place.tail else Utf8.listedName name :: place

/-- Nothing on the way from a place is a file, and no name on it is too long. -/
def Admits (tree : FileTree) : Location → List Text → Prop
  | place, [] => tree.fileAt? place = none
  | place, name :: names =>
      tree.fileAt? place = none ∧ Utf8.size name ≤ nameLimit ∧ Admits tree (step place name) names

/-- A folder is under this path, or one could be. -/
structure CanHold (tree : FileTree) (path : Path) : Prop where
  short : isTooLong path.text = false
  way : tree.Admits (tree.start path) path.names

/-- So many folders are missing, each one in the next. -/
def Lacks (tree : FileTree) (count : Nat) (path : Path) : Prop :=
  ∀ above < count, tree.locate (Path.parent^[above] path) = .error .missing

variable {tree outer : FileTree} {path folder : Path} {place : Location} {name : Text}
  {names : List Text} {count : Nat}

theorem fileAt?_of_folder (h : tree.entry? place = some .folder) : tree.fileAt? place = none := by
  rw [fileAt?, h]

theorem admits_congr (h : outer.fileAt? = tree.fileAt?) :
    outer.Admits place names ↔ tree.Admits place names := by
  induction names generalizing place with
  | nil => rw [Admits, Admits, h]
  | cons name names ih => rw [Admits, Admits, h, ih]

theorem canHold_congr (hfiles : outer.fileAt? = tree.fileAt?) (hbase : outer.base = tree.base) :
    outer.CanHold path ↔ tree.CanHold path := by
  have hstart : outer.start path = tree.start path := by rw [start, start, hbase]
  constructor
  · rintro ⟨hshort, hway⟩
    exact ⟨hshort, (admits_congr hfiles).mp (hstart ▸ hway)⟩
  · rintro ⟨hshort, hway⟩
    exact ⟨hshort, (admits_congr hfiles).mpr (hstart ▸ hway)⟩

theorem admits_of_append {names more : List Text} (h : tree.Admits place (names ++ more)) :
    tree.Admits place names := by
  induction names generalizing place with
  | nil =>
      cases more with
      | nil => exact h
      | cons name more => exact h.1
  | cons name names ih => exact ⟨h.1, h.2.1, ih h.2.2⟩

/-! What a way that is admitted has to do with one that can be walked. -/

theorem walk_cons_of_folder (h : tree.entry? place = some .folder) (name : Text)
    (names : List Text) :
    tree.walk place (name :: names) =
      if nameLimit < Utf8.size name then .error .nameTooLong
      else tree.walk (step place name) names := by
  rw [walk, h]
  rfl

theorem admits_of_walk {last : Location} (hwalk : tree.walk place names = .ok last)
    (hlast : tree.fileAt? last = none) : tree.Admits place names := by
  induction names generalizing place with
  | nil =>
      cases hwalk
      exact hlast
  | cons name names ih =>
      have hplace := folder_of_walk hwalk
      rw [walk_cons_of_folder hplace] at hwalk
      split at hwalk
      · cases hwalk
      · rename_i hshort
        exact ⟨fileAt?_of_folder hplace, Nat.not_lt.mp hshort, ih hwalk⟩

/-- On a way that is admitted nothing stops a walk but a folder that is missing. -/
theorem walk_of_admits (h : tree.Admits place names) :
    tree.walk place names = .error .missing ∨
      ∃ last, tree.walk place names = .ok last ∧ tree.fileAt? last = none := by
  induction names generalizing place with
  | nil => exact .inr ⟨place, rfl, h⟩
  | cons name names ih =>
      obtain ⟨hfile, hshort, hrest⟩ := h
      cases hplace : tree.entry? place with
      | none =>
          left
          rw [walk, hplace]
      | some entry =>
          cases entry with
          | file content =>
              rw [fileAt?_eq_some_iff.mpr hplace] at hfile
              cases hfile
          | folder =>
              rw [walk_cons_of_folder hplace, if_neg (Nat.not_lt.mpr hshort)]
              exact ih hrest

theorem short_of_locate (h : tree.locate path ≠ .error .nameTooLong) :
    isTooLong path.text = false := by
  cases hlong : isTooLong path.text with
  | true => exact absurd (by rw [locate, if_pos hlong]) h
  | false => rfl

theorem locate_of_short (h : isTooLong path.text = false) :
    tree.locate path = tree.walk (tree.start path) path.names := by
  rw [locate, h]
  rfl

theorem canHold_of_locate (hlocate : tree.locate path = .ok place)
    (hplace : tree.fileAt? place = none) : tree.CanHold path := by
  have hshort := short_of_locate (by rw [hlocate]; exact nofun)
  rw [locate_of_short hshort] at hlocate
  exact ⟨hshort, admits_of_walk hlocate hplace⟩

theorem locate_of_canHold (h : tree.CanHold path) :
    tree.locate path = .error .missing ∨
      ∃ place, tree.locate path = .ok place ∧ tree.fileAt? place = none := by
  rw [locate_of_short h.short]
  exact walk_of_admits h.way

theorem parent_child (folder : Path) (name : Text) : (folder.child name).parent = folder := by
  rw [Path.parent, Path.child, List.dropLast_concat]

theorem CanHold.parent (h : tree.CanHold (folder.child name)) : tree.CanHold folder := by
  have hshort := isTooLong_parent (List.concat_ne_nil name folder.names) h.short
  exact ⟨parent_child folder name ▸ hshort, admits_of_append h.way⟩

theorem locate_child (hfolder : tree.locate folder = .ok place)
    (hshort : isTooLong (folder.child name).text = false) :
    tree.locate (folder.child name) = tree.walk place [name] := by
  rw [locate_of_short (short_of_locate (by rw [hfolder]; exact nofun))] at hfolder
  rw [locate_of_short hshort]
  show tree.walk (tree.start folder) (folder.names ++ [name]) = _
  rw [walk_append, hfolder]
  rfl

/-! One folder whose place is known is there, or is added, unless a file is in its place. -/

theorem addedOrThere_of_free (hcheck : path.check = .ok ()) (hlocate : tree.locate path = .ok place)
    (hplace : tree.fileAt? place = none) :
    ∃ added, tree.addedOrThere path ((tree.locate path).bind tree.addFolderAt) =
      (added, .ok place) ∧ added.locate path = .ok place ∧ added.entry? place = some .folder := by
  rw [hlocate]
  show ∃ added, tree.addedOrThere path (tree.addFolderAt place) = _ ∧ _
  cases hentry : tree.entry? place with
  | none =>
      have hfree : tree.entry? place ≠ some .folder := by rw [hentry]; exact nofun
      have hplace := ne_nil_of_entry? hfree
      refine ⟨tree.set place .folder, ?_, locate_set hfree .folder hlocate,
        entry?_set_self hplace tree .folder⟩
      rw [addFolderAt, hentry]
      rfl
  | some entry =>
      cases entry with
      | file content =>
          rw [fileAt?_eq_some_iff.mpr hentry] at hplace
          cases hplace
      | folder =>
          have hfound : tree.find path = .ok (place, .folder) := by
            simp only [find, hlocate, bind, Except.bind, hentry]
          refine ⟨tree, ?_, hlocate, hentry⟩
          rw [addFolderAt, hentry]
          simp only [addedOrThere, acceptFolder, hcheck, hfound]

theorem addedOrThere_of_taken
    (h : ∀ place, tree.locate path = .ok place → tree.fileAt? place ≠ none) :
    ∃ fault, tree.addedOrThere path ((tree.locate path).bind tree.addFolderAt) =
      (tree, .error (.refused fault path)) := by
  have hfound : ∀ place, tree.find path ≠ .ok (place, .folder) := by
    intro place hfind
    rw [find] at hfind
    cases hlocate : tree.locate path with
    | error fault =>
        rw [hlocate] at hfind
        cases hfind
    | ok found =>
        simp only [hlocate, bind, Except.bind] at hfind
        split at hfind
        · cases hfind
        · rename_i hentry
          cases hfind
          exact h _ hlocate (fileAt?_of_folder hentry)
  have haccept : ∀ fault, tree.acceptFolder path fault = .error (.refused fault path) := by
    intro fault
    unfold acceptFolder
    split
    · rename_i hfind
      exact absurd hfind (hfound _)
    · rfl
  cases hlocate : tree.locate path with
  | error fault => exact ⟨fault, congrArg (Prod.mk tree) (haccept fault)⟩
  | ok place =>
      refine ⟨.exists, ?_⟩
      show tree.addedOrThere path (tree.addFolderAt place) = _
      cases hentry : tree.entry? place with
      | none =>
          have hfile : tree.fileAt? place = none := by rw [fileAt?, hentry]
          exact absurd hfile (h place hlocate)
      | some entry =>
          rw [addFolderAt, hentry]
          exact congrArg (Prod.mk tree) (haccept .exists)

/-! A folder with those above it. -/

/-- How adding them can end. -/
inductive Adding (tree : FileTree) (count : Nat) (path : Path) :
    FileTree × Except FileError Location → Prop
  | lacking {outer : FileTree} :
      tree.Lacks count path → Adding tree count path (outer, .error .tooManyFolders)
  | refused {outer : FileTree} {fault : FileFault} {other : Path} :
      ¬ tree.Lacks count path → ¬ tree.CanHold path →
      Adding tree count path (outer, .error (.refused fault other))
  | added {outer : FileTree} {place : Location} :
      ¬ tree.Lacks count path → tree.CanHold path → outer.locate path = .ok place →
      outer.entry? place = some .folder → Adding tree count path (outer, .ok place)

theorem lacks_succ_iff : tree.Lacks (count + 1) path ↔
    tree.locate path = .error .missing ∧ tree.Lacks count path.parent :=
  Nat.forall_lt_succ_left

theorem addFolder_eq_missing_iff :
    tree.addFolder path = .error .missing ↔ tree.locate path = .error .missing := by
  rw [addFolder]
  cases tree.locate path with
  | error fault => simp [bind, Except.bind]
  | ok place =>
      simp only [bind, Except.bind, addFolderAt]
      split <;> simp

/-- Folders that were added before have changed no file, and this one is not missing any more. -/
theorem adding_addedOrThere (hcheck : path.check = .ok ()) (hlacks : ¬ tree.Lacks count path)
    (hfiles : outer.fileAt? = tree.fileAt?) (hbase : outer.base = tree.base)
    (hlocate : outer.locate path ≠ .error .missing) :
    Adding tree count path
      (outer.addedOrThere path ((outer.locate path).bind outer.addFolderAt)) := by
  by_cases hold : tree.CanHold path
  · obtain hmissing | ⟨place, hplace, hfree⟩ :=
      locate_of_canHold ((canHold_congr hfiles hbase).mpr hold)
    · exact absurd hmissing hlocate
    · obtain ⟨added, hadded, hfound, hfolder⟩ := addedOrThere_of_free hcheck hplace hfree
      rw [hadded]
      exact .added hlacks hold hfound hfolder
  · have htaken : ∀ place, outer.locate path = .ok place → outer.fileAt? place ≠ none := by
      intro place hplace hfree
      exact hold ((canHold_congr hfiles hbase).mp (canHold_of_locate hplace hfree))
    obtain ⟨fault, hrefused⟩ := addedOrThere_of_taken htaken
    rw [hrefused]
    exact .refused hlacks hold

/-- Below a folder that is there, nothing is missing on the way to the next one. -/
theorem walk_ne_missing (h : tree.entry? place = some .folder) (name : Text) :
    tree.walk place [name] ≠ .error .missing := by
  rw [walk_cons_of_folder h]
  split
  · exact nofun
  · exact nofun

theorem adding_child {slashes : Nat} {above : List Text}
    (hcheck : (Path.child ⟨slashes, above.reverse⟩ name).check = .ok ())
    (hmissing : tree.addFolder (Path.child ⟨slashes, above.reverse⟩ name) = .error .missing)
    (habove : Adding tree count ⟨slashes, above.reverse⟩
      (tree.addFoldersNamed slashes count above)) :
    Adding tree (count + 1) (Path.child ⟨slashes, above.reverse⟩ name)
      (tree.addFoldersNamed slashes (count + 1) (name :: above)) := by
  have hlocate := addFolder_eq_missing_iff.mp hmissing
  have hlacks : tree.Lacks (count + 1) (Path.child ⟨slashes, above.reverse⟩ name) ↔
      tree.Lacks count ⟨slashes, above.reverse⟩ := by
    rw [lacks_succ_iff, parent_child, and_iff_right hlocate]
  have hreverse : tree.addFolder ⟨slashes, (name :: above).reverse⟩ = .error .missing := by
    rw [List.reverse_cons]
    exact hmissing
  obtain ⟨hfiles, hbase⟩ := tree.files_addFoldersNamed slashes count above
  cases hadded : tree.addFoldersNamed slashes count above with
  | mk outer result =>
      rw [hadded] at habove hfiles hbase
      cases habove with
      | lacking habove =>
          rw [addFoldersNamed_of_missing_error hreverse hadded]
          exact .lacking (hlacks.mpr habove)
      | refused habove hold =>
          rw [addFoldersNamed_of_missing_error hreverse hadded]
          exact .refused (mt hlacks.mp habove) (mt CanHold.parent hold)
      | added habove hold hfound hfolder =>
          have hshort := short_of_locate (by rw [hlocate]; exact nofun)
          have hchild := locate_child hfound hshort
          rw [addFoldersNamed_of_missing_ok hreverse hadded, ← hchild, List.reverse_cons]
          apply adding_addedOrThere hcheck (mt hlacks.mp habove) hfiles hbase
          rw [hchild]
          exact walk_ne_missing hfolder name

theorem adding_addFoldersNamed (tree : FileTree) (slashes count : Nat) (names : List Text)
    (hcheck : (⟨slashes, names.reverse⟩ : Path).check = .ok ()) :
    Adding tree count ⟨slashes, names.reverse⟩ (tree.addFoldersNamed slashes count names) := by
  induction count generalizing names with
  | zero => exact .lacking fun _ h => absurd h (Nat.not_lt_zero _)
  | succ count ih =>
      by_cases hmissing : tree.addFolder ⟨slashes, names.reverse⟩ = .error .missing
      · cases names with
        | nil =>
            have hlocate := addFolder_eq_missing_iff.mp hmissing
            rw [locate_of_short (short_of_locate (by rw [hlocate]; exact nofun))] at hlocate
            cases hlocate
        | cons name above =>
            rw [List.reverse_cons] at hcheck hmissing ⊢
            have hparent := Path.check_parent (List.concat_ne_nil name above.reverse) hcheck
            rw [Path.parent, List.dropLast_concat] at hparent
            exact adding_child hcheck hmissing (ih above hparent)
      · rw [addFoldersNamed_of_ne_missing hmissing]
        have hlocate := mt addFolder_eq_missing_iff.mpr hmissing
        exact adding_addedOrThere hcheck (fun h => hlocate (lacks_succ_iff.mp h).1) rfl rfl hlocate

theorem adding_addFolders (tree : FileTree) (hcheck : path.check = .ok ()) :
    Adding tree folderLimit path (tree.addFolders path) := by
  rw [addFolders, hcheck]
  have hadding := adding_addFoldersNamed tree path.slashes folderLimit path.names.reverse
    (by rw [List.reverse_reverse]; exact hcheck)
  rwa [List.reverse_reverse] at hadding

end ReleaseNotes.FileTree
