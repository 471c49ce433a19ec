import ReleaseNotes.Proofs.Files.Frame
import ReleaseNotes.Proofs.Text.Pieces

namespace ReleaseNotes

/-! A file that is there has a folder around it, so none has to be added before it is written. -/

/-! A path that can be asked for has a parent that can be asked for. -/

theorem Utf8.obstacleFrom?_name_eq_none_iff (position : Nat) (text : Text) :
    obstacleFrom? isNameByte position text = none ↔
      ∀ half, Letter.surrogate half ∈ text → isNameByte half = true := by
  induction text generalizing position with
  | nil => exact ⟨fun _ _ h => absurd h List.not_mem_nil, fun _ => rfl⟩
  | cons letter text ih =>
      cases letter with
      | char c =>
          rw [obstacleFrom?, ih]
          simp
      | surrogate half =>
          rw [obstacleFrom?]
          by_cases h : isNameByte half = true
          · rw [if_pos h, ih]
            simp [h]
          · rw [if_neg h]
            constructor
            · intro hnone
              cases hnone
            · intro hall
              exact absurd (hall half List.mem_cons_self) h

theorem Path.check_eq_ok_iff {path : Path} :
    path.check = .ok () ↔
      (∀ half, Letter.surrogate half ∈ path.text → Utf8.isNameByte half = true) ∧
        (0 : UInt8) ∉ path.text.flatMap Utf8.encodeLetter := by
  rw [← Utf8.obstacleFrom?_name_eq_none_iff 0, check, Utf8.encodeName, Utf8.encodeWith]
  cases hobstacle : Utf8.obstacleFrom? Utf8.isNameByte 0 path.text with
  | some obstacle => simp
  | none =>
      cases hzero : (path.text.flatMap Utf8.encodeLetter).contains 0 with
      | true => simp [List.contains_iff_mem.mp hzero]
      | false =>
          have hmem : (0 : UInt8) ∉ path.text.flatMap Utf8.encodeLetter := by
            intro hmem
            rw [List.contains_iff_mem.mpr hmem] at hzero
            cases hzero
          simp [hmem]

theorem Path.check_of_opens {path other : Path} (h : path.check = .ok ())
    (hopens : other.text <+: path.text) : other.check = .ok () := by
  obtain ⟨hhalves, hzero⟩ := check_eq_ok_iff.mp h
  refine check_eq_ok_iff.mpr ⟨fun half hmem => hhalves half (hopens.subset hmem), ?_⟩
  intro hmem
  obtain ⟨letter, hletter, hbyte⟩ := List.mem_flatMap.mp hmem
  exact hzero (List.mem_flatMap.mpr ⟨letter, hopens.subset hletter, hbyte⟩)

theorem Utf8.size_le_of_opens {a b : Text} (h : a <+: b) : Utf8.size a ≤ Utf8.size b := by
  obtain ⟨rest, rfl⟩ := h
  rw [Utf8.size, Utf8.size, List.flatMap_append, List.length_append]
  exact Nat.le_add_right _ _

theorem Text.joined_prefix_concat (separator : Text) (pieces : List Text) (last : Text) :
    Text.joined separator pieces <+: Text.joined separator (pieces ++ [last]) := by
  rw [Text.joined_concat]
  cases List.eq_nil_or_concat pieces with
  | inl hnil => exact hnil ▸ List.nil_prefix
  | inr hconcat =>
      obtain ⟨front, piece, rfl⟩ := hconcat
      rw [List.concat_eq_append, Text.joined_concat, List.flatMap_append, List.flatMap_singleton,
        ← List.append_assoc, List.append_assoc _ separator]
      exact List.prefix_append _ _

theorem Path.text_eq {path : Path} (h : path ≠ ⟨0, []⟩) :
    path.text = List.replicate path.slashes (.char '/') ++ Text.joined ['/'] path.names := by
  obtain ⟨slashes, names⟩ := path
  unfold Path.text
  split
  · rename_i hslashes hnames
    exact absurd (congr (congrArg Path.mk hslashes) hnames) h
  · rfl

/-- The path of a folder that is more than a dot is where the path of the file begins. -/
theorem Path.parent_text_opens {path : Path} (hnames : path.names ≠ [])
    (hparent : path.parent ≠ ⟨0, []⟩) : path.parent.text <+: path.text := by
  have hpath : path ≠ ⟨0, []⟩ := by
    rintro rfl
    exact hnames rfl
  rw [Path.text_eq hparent, Path.text_eq hpath]
  show List.replicate path.slashes _ ++ Text.joined _ path.names.dropLast <+: _
  have hjoined := Text.joined_prefix_concat ['/'] path.names.dropLast (path.names.getLast hnames)
  rw [List.dropLast_concat_getLast] at hjoined
  exact (List.prefix_append_right_inj _).mpr hjoined

theorem Path.check_parent {path : Path} (hnames : path.names ≠ []) (h : path.check = .ok ()) :
    path.parent.check = .ok () := by
  by_cases hparent : path.parent = ⟨0, []⟩
  · rw [hparent]
    rfl
  · exact Path.check_of_opens h (Path.parent_text_opens hnames hparent)

namespace FileTree

theorem isTooLong_parent {path : Path} (hnames : path.names ≠ [])
    (h : isTooLong path.text = false) : isTooLong path.parent.text = false := by
  by_cases hparent : path.parent = ⟨0, []⟩
  · rw [hparent]
    decide
  · have hsize := Utf8.size_le_of_opens (Path.parent_text_opens hnames hparent)
    simp only [isTooLong, decide_eq_false_iff_not] at h ⊢
    omega

theorem walk_append (tree : FileTree) (start : Location) (first second : List Text) :
    tree.walk start (first ++ second) =
      (tree.walk start first).bind fun middle => tree.walk middle second := by
  induction first generalizing start with
  | nil => rfl
  | cons name first ih =>
      rw [List.cons_append, walk, walk]
      split
      · rfl
      · rfl
      · split
        · rfl
        · exact ih _

/-- The folder of a path that leads somewhere. -/
theorem find_parent {tree : FileTree} {path : Path} {place : Location} (hnames : path.names ≠ [])
    (h : tree.locate path = .ok place) :
    ∃ folder, tree.locate path.parent = .ok folder ∧ tree.entry? folder = some .folder := by
  unfold locate at h
  split at h
  · cases h
  · rename_i hlong
    rw [Bool.not_eq_true] at hlong
    rw [← List.dropLast_concat_getLast hnames, walk_append] at h
    cases hfolder : tree.walk (tree.start path) path.names.dropLast with
    | error fault =>
        rw [hfolder] at h
        cases h
    | ok folder =>
        rw [hfolder] at h
        refine ⟨folder, ?_, folder_of_walk h⟩
        rw [locate, isTooLong_parent hnames hlong]
        exact hfolder

theorem addFolders_parent {tree : FileTree} {path : Path} {place : Location}
    (hnames : path.names ≠ []) (hcheck : path.check = .ok ()) (h : tree.locate path = .ok place) :
    ∃ folder, tree.addFolders path.parent = (tree, .ok folder) := by
  obtain ⟨folder, hlocate, hfolder⟩ := find_parent hnames h
  have hadded : tree.addFolder path.parent = .error .exists := by
    rw [addFolder, hlocate]
    show tree.addFolderAt folder = _
    rw [addFolderAt, hfolder]
  have hparent : (⟨path.parent.slashes, path.parent.names.reverse.reverse⟩ : Path) = path.parent := by
    rw [List.reverse_reverse]
  have hfound : tree.find path.parent = .ok (folder, .folder) := by
    simp only [find, hlocate, bind, Except.bind, hfolder]
  have hthere : tree.addFolder ⟨path.parent.slashes, path.parent.names.reverse.reverse⟩ ≠
      .error .missing := by
    rw [hparent, hadded]
    intro heq
    cases heq
  have hnamed := addFoldersNamed_of_ne_missing hthere (folderLimit - 1)
  have haccepted : tree.acceptFolder path.parent .exists = .ok folder := by
    simp only [acceptFolder, Path.check_parent hnames hcheck, hfound]
  rw [hparent, hadded, addedOrThere, haccepted] at hnamed
  refine ⟨folder, ?_⟩
  rw [addFolders, Path.check_parent hnames hcheck]
  exact hnamed

end FileTree

end ReleaseNotes
