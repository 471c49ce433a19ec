import ReleaseNotes.Files

namespace ReleaseNotes.FileTree

/-! How asking for a file and reading it end, and what the one says about the other. -/

variable {tree : FileTree} {path : Path} {fault : FileError}

theorem readText_eq_ok {text : Text} (h : tree.readText path = .ok text) :
    ∃ bytes stored, tree.readBytes path = .ok bytes ∧ Utf8.decode bytes = .ok stored ∧
      text = Text.foldNewlines stored := by
  unfold readText at h
  split at h
  · cases h
  · rename_i bytes hbytes
    split at h
    · cases h
    · rename_i stored hstored
      cases h
      exact ⟨bytes, stored, hbytes, hstored, rfl⟩

theorem exists?_eq_error_iff :
    tree.exists? path = .error fault ↔
      path.check = .ok () ∧ tree.find path = .error .nameTooLong ∧
        fault = .refused .nameTooLong path := by
  unfold exists?
  constructor
  · intro h
    split at h
    · cases h
    · rename_i hcheck hfind
      cases h
      exact ⟨hcheck, hfind, rfl⟩
    · cases h
    · cases h
  · intro ⟨hcheck, hfind, hfault⟩
    simp only [hcheck, hfind, hfault]

theorem exists?_of_readBytes {bytes : Bytes} (h : tree.readBytes path = .ok bytes) :
    tree.exists? path = .ok true := by
  unfold readBytes at h
  unfold exists?
  split at h
  · cases h
  · rename_i hcheck
    split at h
    · cases h
    · cases h
    · rename_i hfind
      simp only [hcheck, hfind]

theorem exists?_of_readText {text : Text} (h : tree.readText path = .ok text) :
    tree.exists? path = .ok true := by
  obtain ⟨bytes, stored, hbytes, -, -⟩ := readText_eq_ok h
  exact exists?_of_readBytes hbytes

/-- Where something is, its bytes are refused for a folder only. -/
theorem readBytes_of_exists? (h : tree.exists? path = .ok true) :
    tree.readBytes path = .error (.refused .isFolder path) ∨
      ∃ bytes, tree.readBytes path = .ok bytes := by
  unfold exists? at h
  unfold readBytes
  split at h
  · cases h
  · cases h
  · cases h
  · rename_i found hcheck hfind
    obtain ⟨place, entry⟩ := found
    simp only [hcheck, hfind]
    cases entry with
    | folder => exact .inl rfl
    | file bytes => exact .inr ⟨bytes, rfl⟩

theorem fault_of_readText (hthere : tree.exists? path = .ok true)
    (h : tree.readText path = .error fault) :
    fault = .refused .isFolder path ∨
      ∃ bytes failure, tree.readBytes path = .ok bytes ∧ Utf8.decode bytes = .error failure ∧
        fault = .undecodable failure := by
  unfold readText at h
  obtain hfolder | ⟨bytes, hbytes⟩ := readBytes_of_exists? hthere
  · rw [hfolder] at h
    cases h
    exact .inl rfl
  · rw [hbytes] at h
    dsimp only at h
    split at h
    · rename_i failure hdecode
      cases h
      exact .inr ⟨bytes, failure, hbytes, hdecode, rfl⟩
    · cases h

/-- There is a file, but its bytes are no UTF-8. -/
def HoldsNoText (tree : FileTree) (path : Path) : Prop :=
  ∃ bytes failure, tree.readBytes path = .ok bytes ∧ Utf8.decode bytes = .error failure

theorem readText_of_holdsNoText (h : tree.HoldsNoText path) :
    ∃ failure, tree.readText path = .error (.undecodable failure) := by
  obtain ⟨bytes, failure, hbytes, hdecode⟩ := h
  refine ⟨failure, ?_⟩
  rw [readText, hbytes]
  simp only [hdecode]

theorem readText_of_check (h : path.check = .error fault) : tree.readText path = .error fault := by
  rw [readText, readBytes, h]

/-- A text is not read because nothing can be asked for under its path, because what is there is
refused, or because the bytes are no UTF-8. -/
theorem readText_eq_error (h : tree.readText path = .error fault) :
    path.check = .error fault ∨ (∃ reason, fault = .refused reason path) ∨
      tree.HoldsNoText path := by
  unfold readText at h
  cases hbytes : tree.readBytes path with
  | ok bytes =>
      rw [hbytes] at h
      dsimp only at h
      split at h
      · rename_i failure hdecode
        exact .inr (.inr ⟨bytes, failure, hbytes, hdecode⟩)
      · cases h
  | error error =>
      rw [hbytes] at h
      cases h
      unfold readBytes at hbytes
      split at hbytes
      · rename_i hcheck
        cases hbytes
        exact .inl hcheck
      · split at hbytes
        · cases hbytes
          exact .inr (.inl ⟨_, rfl⟩)
        · cases hbytes
          exact .inr (.inl ⟨_, rfl⟩)
        · cases hbytes

theorem check_ne_refused (path other : Path) (fault : FileFault) :
    path.check ≠ .error (.refused fault other) := by
  unfold Path.check
  split
  · exact nofun
  · split <;> exact nofun

/-- Nothing can be asked for under the path, or there is a file without a text. -/
def Breaks (tree : FileTree) (path : Path) : Prop :=
  path.check ≠ .ok () ∨ tree.HoldsNoText path

/-- What is not read is refused, unless reading it breaks. -/
theorem breaks_of_not_refused {error : FileError} (hread : tree.readText path = .error error)
    (h : ∀ fault other, error ≠ .refused fault other) : tree.Breaks path := by
  obtain hcheck | ⟨fault, rfl⟩ | htext := readText_eq_error hread
  · exact .inl (by rw [hcheck]; exact nofun)
  · exact absurd rfl (h fault path)
  · exact .inr htext

theorem Breaks.readText (h : tree.Breaks path) :
    ∃ error, tree.readText path = .error error ∧ ∀ fault other, error ≠ .refused fault other := by
  obtain hcheck | htext := h
  · cases hpath : path.check with
    | ok value => exact absurd hpath hcheck
    | error error =>
        refine ⟨error, readText_of_check hpath, ?_⟩
        rintro fault other rfl
        exact check_ne_refused path other fault hpath
  · obtain ⟨failure, hfailure⟩ := readText_of_holdsNoText htext
    exact ⟨_, hfailure, nofun⟩

end ReleaseNotes.FileTree
