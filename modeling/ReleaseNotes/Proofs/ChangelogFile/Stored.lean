import ReleaseNotes.Proofs.ChangelogFile.Writing

namespace ReleaseNotes.ChangelogFile

/-! The text of a changelog, letter by letter, before and after a release is put in front of it. -/

/-- What the bytes of a file spell. Reading the file as text would fold its line ends as well. -/
def storedText (tree : FileTree) (path : Path) : Except FileError Text :=
  match tree.readBytes path with
  | .error error => .error error
  | .ok bytes =>
      match Utf8.decode bytes with
      | .error failure => .error (.undecodable failure)
      | .ok text => .ok text

theorem storedText_eq_ok_iff {tree : FileTree} {path : Path} {text : Text} :
    storedText tree path = .ok text ↔
      path.check = .ok () ∧ ∃ place bytes, tree.locate path = .ok place ∧
        tree.entry? place = some (.file bytes) ∧ Utf8.decode bytes = .ok text := by
  constructor
  · intro h
    unfold storedText at h
    split at h
    · cases h
    · rename_i bytes hbytes
      obtain ⟨hcheck, place, hlocate, hentry⟩ := FileTree.readBytes_eq_ok_iff.mp hbytes
      split at h
      · cases h
      · rename_i hdecode
        cases h
        exact ⟨hcheck, place, bytes, hlocate, hentry, hdecode⟩
  · rintro ⟨hcheck, place, bytes, hlocate, hentry, hdecode⟩
    have hbytes := FileTree.readBytes_eq_ok_iff.mpr ⟨hcheck, place, hlocate, hentry⟩
    simp only [storedText, hbytes, hdecode]

theorem readText_of_storedText {tree : FileTree} {path : Path} {text : Text}
    (h : storedText tree path = .ok text) :
    tree.readText path = .ok (Text.foldNewlines text) := by
  obtain ⟨hcheck, place, bytes, hlocate, hentry, hdecode⟩ := storedText_eq_ok_iff.mp h
  have hbytes := FileTree.readBytes_eq_ok_iff.mpr ⟨hcheck, place, hlocate, hentry⟩
  simp only [FileTree.readText, hbytes, hdecode]

theorem previousText_of_storedText {tree : FileTree} {path : Path} {text : Text}
    (h : storedText tree path = .ok text) :
    previousText tree path = .ok (Text.foldNewlines text) := by
  obtain ⟨hcheck, place, bytes, hlocate, hentry, _⟩ := storedText_eq_ok_iff.mp h
  have hexists : tree.exists? path = .ok true := by
    simp only [FileTree.exists?, FileTree.find, hcheck, hlocate, bind, Except.bind, hentry]
  rw [previousText, hexists]
  exact readText_of_storedText h

theorem obstacle?_of_storedText {tree : FileTree} {path : Path} {text : Text}
    (h : storedText tree path = .ok text) : Utf8.obstacle? text = none := by
  obtain ⟨_, _, bytes, _, _, hdecode⟩ := storedText_eq_ok_iff.mp h
  exact Utf8.obstacle?_of_decode hdecode

/-- A path that only says where to start names no file. -/
theorem names_ne_nil {tree : FileTree} {path : Path} {text : Text}
    (hbase : tree.entry? tree.base = some .folder) (h : storedText tree path = .ok text) :
    path.names ≠ [] := by
  intro hnames
  obtain ⟨_, place, bytes, hlocate, hentry, _⟩ := storedText_eq_ok_iff.mp h
  rw [FileTree.locate, hnames] at hlocate
  split at hlocate
  · cases hlocate
  · cases hlocate
    rw [FileTree.start] at hentry
    split at hentry
    · cases hentry
    · rw [hbase] at hentry
      cases hentry

/-- What a file holds after a text was written to it: nothing if the text has no form in UTF-8. -/
def written (text : Text) : Text :=
  match Utf8.obstacle? text with
  | none => text
  | some _ => []

theorem storedText_writeText {tree : FileTree} {path : Path} {place : Location}
    (hplace : tree.placeForFile path = .ok place) (text : Text) :
    storedText (tree.writeText path text).1 path = .ok (written text) := by
  obtain ⟨hlocate, hfile⟩ := FileTree.placeForFile_eq_ok hplace
  have hset : ∀ content kept, Utf8.decode content = .ok kept →
      storedText (tree.set place (.file content)) path = .ok kept := by
    intro content kept hdecode
    exact storedText_eq_ok_iff.mpr ⟨FileTree.check_of_placeForFile hplace, place, content,
      FileTree.locate_set hfile (.file content) hlocate,
      FileTree.entry?_set_self (FileTree.ne_nil_of_entry? hfile) tree _, hdecode⟩
  unfold written
  cases hobstacle : Utf8.obstacle? text with
  | none =>
      have hencode := Utf8.encode_of_encodable hobstacle
      simp only [FileTree.writeText, hplace, hencode]
      exact hset _ _ (Utf8.decode_of_encode hencode)
  | some obstacle =>
      have hencode := Utf8.encode_of_obstacle hobstacle
      simp only [FileTree.writeText, hplace, hencode]
      exact hset [] [] rfl

/-- The text of the file once a release is put in front of it; a release that cannot be written
leaves nothing. -/
def afterPrepend (notes text : Text) : Text :=
  match Utf8.obstacle? notes with
  | none => headed notes (Text.foldNewlines text)
  | some _ => []

theorem written_headed {notes previous : Text} (h : Utf8.obstacle? previous = none) :
    written (headed notes previous) =
      match Utf8.obstacle? notes with
      | none => headed notes previous
      | some _ => [] := by
  have hobstacle : Utf8.obstacle? (headed notes previous) = none ↔ Utf8.obstacle? notes = none :=
    obstacle?_headed_eq_none_iff h
  unfold written
  cases hnotes : Utf8.obstacle? notes with
  | none => rw [hobstacle.mpr hnotes]
  | some obstacle =>
      cases hheaded : Utf8.obstacle? (headed notes previous) with
      | none =>
          rw [hobstacle.mp hheaded] at hnotes
          cases hnotes
      | some found => rfl

theorem storedText_prepend {tree : FileTree} {path : Path} {text : Text} (hnames : path.names ≠ [])
    (h : storedText tree path = .ok text) (notes : Text) :
    storedText (prepend tree path notes).1 path = .ok (afterPrepend notes text) := by
  have hprevious := previousText_of_storedText h
  obtain ⟨hcheck, place, bytes, hlocate, hentry, _⟩ := storedText_eq_ok_iff.mp h
  obtain ⟨folder, hfolders⟩ := FileTree.addFolders_parent hnames hcheck hlocate
  have hplace : tree.placeForFile path = .ok place := by
    simp only [FileTree.placeForFile, hcheck, hlocate, hentry]
  rw [prepend, hprevious]
  simp only [write, inFolders, hfolders]
  rw [storedText_writeText hplace, written_headed (obstacle?_of_previousText hprevious)]
  rfl

/-- Whatever was there before, a release that was written stands in front of it. -/
theorem storedText_of_prepend_ok {tree : FileTree} {path : Path} {notes previous : Text}
    (hprevious : previousText tree path = .ok previous)
    (h : (prepend tree path notes).2 = .ok ()) :
    storedText (prepend tree path notes).1 path = .ok (headed notes previous) := by
  have hheaded : written (headed notes previous) = headed notes previous := by
    rw [written, (obstacle?_headed_eq_none_iff (obstacle?_of_previousText hprevious)).mpr
      (encodable_of_prepend_ok h)]
  rw [prepend, hprevious] at h ⊢
  simp only [write, inFolders] at h ⊢
  cases hfolders : tree.addFolders path.parent with
  | mk outer added =>
      rw [hfolders] at h
      cases added with
      | error error => cases h
      | ok folder =>
          cases hplace : outer.placeForFile path with
          | error error =>
              simp only [FileTree.writeText, hplace] at h
              cases h
          | ok place =>
              have hstored := storedText_writeText hplace (headed notes previous)
              rw [hheaded] at hstored
              exact hstored

/-- The tree after one release after the other is put in front of the changelog. -/
def prependAll (tree : FileTree) (path : Path) (sections : List Text) : FileTree :=
  sections.foldl (fun tree notes => (prepend tree path notes).1) tree

theorem storedText_prependAll {tree : FileTree} {path : Path} {text : Text}
    (hnames : path.names ≠ []) (h : storedText tree path = .ok text) (sections : List Text) :
    storedText (prependAll tree path sections) path =
      .ok (sections.foldl (fun text notes => afterPrepend notes text) text) := by
  induction sections generalizing tree text with
  | nil => exact h
  | cons notes sections ih => exact ih (storedText_prepend hnames h notes)

end ReleaseNotes.ChangelogFile
