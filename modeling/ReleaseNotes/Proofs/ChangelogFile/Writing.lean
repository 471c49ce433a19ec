import ReleaseNotes.Proofs.Files.Folders
import ReleaseNotes.Proofs.Files.Reading
import ReleaseNotes.Proofs.Text.Encodable

namespace ReleaseNotes

namespace FileTree

/-- Writing fails before it changes anything, or it changes one file; it then has failed exactly if
the text has no form in UTF-8. -/
theorem writeText_cases (tree : FileTree) (path : Path) (text : Text) :
    (∃ error, tree.writeText path text = (tree, .error error)) ∨
      ∃ place content, tree.locate path = .ok place ∧ tree.entry? place ≠ some .folder ∧
        (tree.writeText path text).1 = tree.set place (.file content) ∧
        ((tree.writeText path text).2 = .ok () ↔ Utf8.obstacle? text = none) := by
  cases hplace : tree.placeForFile path with
  | error error =>
      refine Or.inl ⟨error, ?_⟩
      simp only [writeText, hplace]
  | ok place =>
      obtain ⟨hlocate, hentry⟩ := placeForFile_eq_ok hplace
      cases hobstacle : Utf8.obstacle? text with
      | some obstacle =>
          have hencode := Utf8.encode_of_obstacle hobstacle
          refine Or.inr ⟨place, [], hlocate, hentry, ?_, ?_⟩
          · simp only [writeText, hplace, hencode]
          · simp [writeText, hplace, hencode]
      | none =>
          have hencode := Utf8.encode_of_encodable hobstacle
          refine Or.inr ⟨place, text.flatMap Utf8.encodeLetter, hlocate, hentry, ?_, ?_⟩
          · simp only [writeText, hplace, hencode]
          · simp [writeText, hplace, hencode]

theorem placeForFile_eq_error {tree : FileTree} {path : Path} {error : FileError}
    (h : tree.placeForFile path = .error error) :
    path.check = .error error ∨ path.check = .ok () ∧ ∃ fault, error = .refused fault path := by
  unfold placeForFile at h
  split at h
  · rename_i hcheck
    cases h
    exact .inl hcheck
  · rename_i hcheck
    refine .inr ⟨hcheck, ?_⟩
    split at h
    · cases h
      exact ⟨_, rfl⟩
    · split at h
      · cases h
        exact ⟨_, rfl⟩
      · cases h

/-- Writing a file is not refused but breaks for its path or for its text. -/
theorem writeText_breaks_iff {tree : FileTree} {path : Path} {text : Text} :
    (∃ error, (tree.writeText path text).2 = .error error ∧
        ∀ fault other, error ≠ .refused fault other) ↔
      path.check ≠ .ok () ∨
        (∃ place, tree.placeForFile path = .ok place) ∧ Utf8.obstacle? text ≠ none := by
  cases hplace : tree.placeForFile path with
  | error error =>
      have hwrite : (tree.writeText path text).2 = .error error := by simp only [writeText, hplace]
      rw [hwrite]
      obtain hcheck | ⟨hcheck, fault, rfl⟩ := placeForFile_eq_error hplace
      · refine iff_of_true ⟨error, rfl, ?_⟩ (.inl (by rw [hcheck]; exact nofun))
        rintro fault other rfl
        exact check_ne_refused path other fault hcheck
      · simp [hcheck]
  | ok place =>
      have hcheck := check_of_placeForFile hplace
      cases hobstacle : Utf8.obstacle? text with
      | none =>
          have hencode := Utf8.encode_of_encodable hobstacle
          simp [writeText, hplace, hencode, hcheck]
      | some obstacle =>
          have hencode := Utf8.encode_of_obstacle hobstacle
          simp [writeText, hplace, hencode, hcheck]

end FileTree

namespace ChangelogFile

theorem obstacle?_of_previousText {tree : FileTree} {path : Path} {previous : Text}
    (h : previousText tree path = .ok previous) : Utf8.obstacle? previous = none := by
  unfold previousText at h
  split at h
  · cases h
  · cases h
    rfl
  · obtain ⟨bytes, stored, _, hstored, rfl⟩ := FileTree.readText_eq_ok h
    have hletters := Utf8.obstacle?_eq_none_iff.mp (Utf8.obstacle?_of_decode hstored)
    rw [Utf8.obstacle?_eq_none_iff]
    intro letter hletter
    cases Text.mem_of_mem_foldNewlines hletter with
    | inl hmem => exact hletters letter hmem
    | inr hnewline => exact hnewline ▸ rfl

/-- What stands below the notes of a release. -/
def below (earlier : Text) : Text :=
  match earlier with
  | [] => Text.newline
  | earlier => Text.newline ++ Text.newline ++ earlier

theorem suffix_below (earlier : Text) : earlier <:+ below earlier := by
  cases earlier with
  | nil => exact List.nil_suffix
  | cons c earlier => exact List.suffix_append (Text.newline ++ Text.newline) (c :: earlier)

theorem return_not_mem_below {earlier : Text} (h : Letter.char '\r' ∉ earlier) :
    Letter.char '\r' ∉ below earlier := by
  cases earlier with
  | nil => decide
  | cons c earlier =>
      show Letter.char '\r' ∉ Text.newline ++ Text.newline ++ c :: earlier
      rw [List.mem_append, not_or]
      exact ⟨by decide, h⟩

theorem headed_eq (notes previous : Text) :
    headed notes previous = Text.strip notes ++ below (Text.dropNewlines previous) := by
  unfold headed below
  cases Text.dropNewlines previous with
  | nil => rfl
  | cons c earlier => simp only [List.append_assoc]

theorem headed_eq_ite (notes previous : Text) :
    headed notes previous =
      if ∀ letter ∈ previous, letter = .char '\n' then Text.strip notes ++ Text.newline
      else Text.strip notes ++ Text.newline ++ Text.newline ++ Text.dropNewlines previous := by
  have hnil : Text.dropNewlines previous = [] ↔ ∀ letter ∈ previous, letter = .char '\n' := by
    simp [Text.dropNewlines, List.dropWhile_eq_nil_iff]
  unfold headed
  split
  · rename_i heq
    rw [if_pos (hnil.mp heq)]
  · rename_i heq
    rw [if_neg fun hall => heq (hnil.mpr hall)]

theorem obstacle?_below {earlier : Text} (h : Utf8.obstacle? earlier = none) :
    Utf8.obstacle? (below earlier) = none := by
  cases earlier with
  | nil => rfl
  | cons c earlier => exact Utf8.obstacle?_append_eq_none_iff.mpr ⟨rfl, h⟩

theorem obstacle?_headed_eq_none_iff {notes previous : Text}
    (h : Utf8.obstacle? previous = none) :
    Utf8.obstacle? (headed notes previous) = none ↔ Utf8.obstacle? notes = none := by
  have hearlier : Utf8.obstacle? (Text.dropNewlines previous) = none :=
    Utf8.obstacle?_of_mem h fun _ hc => (List.dropWhile_suffix _).subset hc
  rw [headed_eq, Utf8.obstacle?_append_eq_none_iff, Text.obstacle?_strip_eq_none_iff]
  exact and_iff_left (obstacle?_below hearlier)

/-- Prepending fails and leaves every file as it was, or it changes the one file that the path leads
to; it then has failed exactly if the notes have no form in UTF-8. -/
theorem prepend_cases (tree : FileTree) (path : Path) (notes : Text) :
    ((prepend tree path notes).1.fileAt? = tree.fileAt? ∧
        ∃ error, (prepend tree path notes).2 = .error error) ∨
      ∃ place, (prepend tree path notes).1.locate path = .ok place ∧
        (∀ other, other ≠ place → (prepend tree path notes).1.fileAt? other = tree.fileAt? other) ∧
        ((prepend tree path notes).2 = .ok () ↔ Utf8.obstacle? notes = none) := by
  cases hprevious : previousText tree path with
  | error error =>
      have heq : prepend tree path notes = (tree, .error error) := by rw [prepend, hprevious]
      exact Or.inl ⟨heq ▸ rfl, error, heq ▸ rfl⟩
  | ok previous =>
      have heq : prepend tree path notes = write tree path (headed notes previous) := by
        rw [prepend, hprevious]
      have hobstacle : Utf8.obstacle? (headed notes previous) = none ↔
          Utf8.obstacle? notes = none :=
        obstacle?_headed_eq_none_iff (obstacle?_of_previousText hprevious)
      rw [heq, write, inFolders]
      obtain ⟨hfiles, _⟩ := tree.files_addFolders path.parent
      cases hfolders : tree.addFolders path.parent with
      | mk outer added =>
          rw [hfolders] at hfiles
          cases added with
          | error error => exact Or.inl ⟨hfiles, error, rfl⟩
          | ok folder =>
              cases outer.writeText_cases path (headed notes previous) with
              | inl hfailed =>
                  obtain ⟨error, hfailed⟩ := hfailed
                  simp only [hfailed]
                  exact Or.inl ⟨hfiles, error, rfl⟩
              | inr hwritten =>
                  obtain ⟨place, content, hlocate, hentry, htree, hresult⟩ := hwritten
                  refine Or.inr ⟨place, ?_, ?_, hresult.trans hobstacle⟩
                  · simp only [htree]
                    exact FileTree.locate_set hentry (.file content) hlocate
                  · intro other hother
                    simp only [htree]
                    rw [FileTree.fileAt?_set_file (FileTree.ne_nil_of_entry? hentry), if_neg hother,
                      ← hfiles]

theorem encodable_of_prepend_ok {tree : FileTree} {path : Path} {notes : Text}
    (h : (prepend tree path notes).2 = .ok ()) : Utf8.obstacle? notes = none := by
  cases prepend_cases tree path notes with
  | inl hfailed =>
      obtain ⟨_, error, hfailed⟩ := hfailed
      rw [hfailed] at h
      cases h
  | inr hwritten =>
      obtain ⟨_, _, _, hresult⟩ := hwritten
      exact hresult.mp h

/-- Notes that can be written are either written or leave every file as it was. -/
theorem files_of_prepend_ne_ok {tree : FileTree} {path : Path} {notes : Text}
    (hnotes : Utf8.obstacle? notes = none) (h : (prepend tree path notes).2 ≠ .ok ()) :
    (prepend tree path notes).1.fileAt? = tree.fileAt? := by
  cases prepend_cases tree path notes with
  | inl hfailed => exact hfailed.1
  | inr hwritten =>
      obtain ⟨_, _, _, hresult⟩ := hwritten
      exact absurd (hresult.mpr hnotes) h

/-! What writing needs. -/

section CanWrite

variable {tree : FileTree} {path : Path}

/-- There is some text that can be written to a file there. -/
def CanWrite (tree : FileTree) (path : Path) : Prop :=
  ∃ text, (write tree path text).2 = .ok ()

theorem CanWrite.place (h : CanWrite tree path) :
    ∃ outer folder place, tree.addFolders path.parent = (outer, .ok folder) ∧
      outer.placeForFile path = .ok place := by
  obtain ⟨text, htext⟩ := h
  rw [write, inFolders] at htext
  cases hfolders : tree.addFolders path.parent with
  | mk outer added =>
      rw [hfolders] at htext
      cases added with
      | error error => cases htext
      | ok folder =>
          cases hplace : outer.placeForFile path with
          | error error =>
              simp only [FileTree.writeText, hplace] at htext
              cases htext
          | ok place => exact ⟨outer, folder, place, rfl, hplace⟩

theorem canWrite_of_place {outer : FileTree} {folder place : Location}
    (hfolders : tree.addFolders path.parent = (outer, .ok folder))
    (hplace : outer.placeForFile path = .ok place) : CanWrite tree path := by
  refine ⟨[], ?_⟩
  rw [write, inFolders, hfolders]
  simp only [FileTree.writeText, hplace]
  rfl

/-- Notes are written where something can be, below what was there before. -/
theorem prepend_eq_ok_iff {notes : Text} :
    (prepend tree path notes).2 = .ok () ↔
      (∃ previous, previousText tree path = .ok previous) ∧ CanWrite tree path ∧
        Utf8.obstacle? notes = none := by
  constructor
  · intro h
    have hnotes := encodable_of_prepend_ok h
    cases hprevious : previousText tree path with
    | error error =>
        rw [prepend, hprevious] at h
        cases h
    | ok previous =>
        rw [prepend, hprevious] at h
        exact ⟨⟨previous, rfl⟩, ⟨_, h⟩, hnotes⟩
  · rintro ⟨⟨previous, hprevious⟩, hwrite, hnotes⟩
    obtain ⟨outer, folder, place, hfolders, hplace⟩ := hwrite.place
    have hencode := Utf8.encode_of_encodable
      ((obstacle?_headed_eq_none_iff (obstacle?_of_previousText hprevious)).mpr hnotes)
    rw [prepend, hprevious]
    simp only [write, inFolders, hfolders, FileTree.writeText, hplace, hencode]

end CanWrite

/-- Writing breaks on the path or on the text: the folders or the file have a name that cannot be
asked for, too many folders are missing, or the text has no form in UTF-8. -/
inductive Unwritable (tree : FileTree) (path : Path) (text : Text) : Prop
  | folders : (∃ name ∈ path.parent.names, Utf8.isName name = false) → Unwritable tree path text
  | name : tree.CanHold path.parent → (∃ name ∈ path.names, Utf8.isName name = false) →
      Unwritable tree path text
  | depth : tree.Lacks FileTree.folderLimit path.parent → Unwritable tree path text
  | text : CanWrite tree path → Utf8.obstacle? text ≠ none → Unwritable tree path text

theorem check_ne_ok_iff {path : Path} :
    path.check ≠ .ok () ↔ ∃ name ∈ path.names, Utf8.isName name = false := by
  rw [ne_eq, Path.check_eq_ok_iff_names]
  simp

/-- A text is either written or refused, unless it is unwritable. -/
theorem write_breaks_iff {tree : FileTree} {path : Path} {text : Text} :
    (∃ error, (write tree path text).2 = .error error ∧
        ∀ fault other, error ≠ .refused fault other) ↔ Unwritable tree path text := by
  rw [write, inFolders]
  cases hcheck : path.parent.check with
  | error error =>
      refine iff_of_true ⟨error, ?_, ?_⟩ (.folders (check_ne_ok_iff.mp (by simp [hcheck])))
      · rw [FileTree.addFolders, hcheck]
      · rintro fault other rfl
        exact FileTree.check_ne_refused _ _ _ hcheck
  | ok asked =>
      have hfolders : ¬ ∃ name ∈ path.parent.names, Utf8.isName name = false :=
        fun h => check_ne_ok_iff.mpr h hcheck
      have hadding := FileTree.adding_addFolders tree hcheck
      cases hadded : tree.addFolders path.parent with
      | mk outer result =>
          rw [hadded] at hadding
          cases hadding with
          | lacking hlacks =>
              refine iff_of_true ⟨.tooManyFolders, rfl, ?_⟩ (.depth hlacks)
              rintro fault other ⟨⟩
          | refused hlacks hold =>
              refine iff_of_false ?_ ?_
              · rintro ⟨error, ⟨⟩, hother⟩
                exact hother _ _ rfl
              · intro h
                cases h with
                | folders hnames => exact hfolders hnames
                | name hhold _ => exact hold hhold
                | depth hmissing => exact hlacks hmissing
                | text hwrite _ =>
                    obtain ⟨other, folder, place, hother, _⟩ := hwrite.place
                    cases hadded.symm.trans hother
          | added hlacks hold _ _ =>
              refine FileTree.writeText_breaks_iff.trans ⟨?_, ?_⟩
              · rintro (hname | ⟨⟨place, hplace⟩, htext⟩)
                · exact .name hold (check_ne_ok_iff.mp hname)
                · exact .text (canWrite_of_place hadded hplace) htext
              · intro h
                cases h with
                | folders hnames => exact absurd hnames hfolders
                | name _ hnames => exact .inl (check_ne_ok_iff.mpr hnames)
                | depth hmissing => exact absurd hmissing hlacks
                | text hwrite htext =>
                    obtain ⟨other, folder, place, hother, hplace⟩ := hwrite.place
                    cases hadded.symm.trans hother
                    exact .inr ⟨⟨place, hplace⟩, htext⟩

/-- Of the text it only matters whether it has a form in UTF-8. -/
theorem Unwritable.of_text {tree : FileTree} {path : Path} {text other : Text}
    (h : Unwritable tree path text)
    (hother : Utf8.obstacle? text ≠ none → Utf8.obstacle? other ≠ none) :
    Unwritable tree path other := by
  cases h with
  | folders hnames => exact .folders hnames
  | name hold hnames => exact .name hold hnames
  | depth hmissing => exact .depth hmissing
  | text hwrite htext => exact .text hwrite (hother htext)

theorem unwritable_headed {tree : FileTree} {path : Path} {notes previous : Text}
    (h : previousText tree path = .ok previous) :
    Unwritable tree path (headed notes previous) ↔ Unwritable tree path notes := by
  have hobstacle : Utf8.obstacle? (headed notes previous) ≠ none ↔ Utf8.obstacle? notes ≠ none :=
    not_congr (obstacle?_headed_eq_none_iff (obstacle?_of_previousText h))
  exact ⟨fun hheaded => hheaded.of_text hobstacle.mp, fun hnotes => hnotes.of_text hobstacle.mpr⟩

section Breaks

variable {tree : FileTree} {path : Path} {notes : Text}

theorem previousText_of_holdsNoText (h : tree.HoldsNoText path) :
    ∃ failure, previousText tree path = .error (.undecodable failure) := by
  obtain ⟨bytes, _, hbytes, _⟩ := id h
  obtain ⟨failure, hread⟩ := FileTree.readText_of_holdsNoText h
  refine ⟨failure, ?_⟩
  rw [previousText, FileTree.exists?_of_readBytes hbytes]
  exact hread

theorem holdsNoText_of_previousText {error : FileError}
    (h : previousText tree path = .error error)
    (hother : ∀ fault other, error ≠ .refused fault other) : tree.HoldsNoText path := by
  unfold previousText at h
  split at h
  · rename_i hexists
    cases h
    exact absurd (FileTree.exists?_eq_error_iff.mp hexists).2.2 (hother _ _)
  · cases h
  · rename_i hexists
    obtain rfl | ⟨bytes, failure, hbytes, hdecode, _⟩ := FileTree.fault_of_readText hexists h
    · exact absurd rfl (hother _ _)
    · exact ⟨bytes, failure, hbytes, hdecode⟩

/-- Prepending breaks on what is there, or on what is to be written. -/
theorem prepend_breaks_iff :
    (∃ error, (prepend tree path notes).2 = .error error ∧
        ∀ fault other, error ≠ .refused fault other) ↔
      tree.HoldsNoText path ∨
        ∃ previous, previousText tree path = .ok previous ∧ Unwritable tree path notes := by
  constructor
  · rintro ⟨error, herror, hother⟩
    cases hprevious : previousText tree path with
    | ok previous =>
        rw [prepend, hprevious] at herror
        exact .inr ⟨previous, rfl, (unwritable_headed hprevious).mp
          (write_breaks_iff.mp ⟨error, herror, hother⟩)⟩
    | error reason =>
        rw [prepend, hprevious] at herror
        cases herror
        exact .inl (holdsNoText_of_previousText hprevious hother)
  · rintro (htext | ⟨previous, hprevious, hunwritable⟩)
    · obtain ⟨failure, hprevious⟩ := previousText_of_holdsNoText htext
      refine ⟨.undecodable failure, ?_, nofun⟩
      rw [prepend, hprevious]
    · rw [prepend, hprevious]
      exact write_breaks_iff.mpr ((unwritable_headed hprevious).mpr hunwritable)

end Breaks

end ChangelogFile

end ReleaseNotes
