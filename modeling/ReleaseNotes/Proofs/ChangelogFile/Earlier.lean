import ReleaseNotes.Proofs.ChangelogFile.Stored
import ReleaseNotes.Proofs.Text.LineEnds

namespace ReleaseNotes.ChangelogFile

/-!
What releases do to the text that was in the changelog before them. It stays at the end of the file
as long as it has no carriage return, for those are read as line feeds, and as long as every release
can be written, for a release that cannot be leaves the file empty.
-/

theorem suffix_headed (notes previous : Text) :
    Text.dropNewlines previous <:+ headed notes previous := by
  rw [headed_eq]
  exact (suffix_below _).trans (List.suffix_append _ _)

/-- A text without carriage returns that does not begin with a line feed stays where it is. -/
theorem suffix_afterPrepend {notes text earlier : Text} (hreturn : Letter.char '\r' ∉ earlier)
    (hearlier : Text.dropNewlines earlier = earlier) (hnotes : Utf8.obstacle? notes = none)
    (h : earlier <:+ text) : earlier <:+ afterPrepend notes text := by
  rw [afterPrepend, hnotes]
  cases earlier with
  | nil => exact List.nil_suffix
  | cons c rest =>
      have hfirst : c ≠ '\n' := Text.first_of_dropNewlines hearlier
      obtain ⟨front, rfl⟩ := h
      have hfolded : Text.foldNewlines (front ++ c :: rest) =
          Text.foldNewlines front ++ c :: rest := by
        rw [Text.foldNewlines_append hfirst, Text.foldNewlines_eq_self hreturn]
      have hkept : c :: rest <:+ Text.dropNewlines (Text.foldNewlines (front ++ c :: rest)) :=
        hfolded ▸ Text.suffix_dropNewlines_append hfirst _ rest
      exact hkept.trans (suffix_headed notes _)

theorem suffix_foldl_afterPrepend {text earlier : Text} {sections : List Text}
    (hreturn : Letter.char '\r' ∉ earlier) (hearlier : Text.dropNewlines earlier = earlier)
    (hsections : ∀ notes ∈ sections, Utf8.obstacle? notes = none) (h : earlier <:+ text) :
    earlier <:+ sections.foldl (fun text notes => afterPrepend notes text) text := by
  induction sections generalizing text with
  | nil => exact h
  | cons notes sections ih =>
      obtain ⟨hnotes, hsections⟩ := List.forall_mem_cons.mp hsections
      exact ih hsections (suffix_afterPrepend hreturn hearlier hnotes h)

/-- The notes and the text below them in the file: where the file still ends with the earlier text,
line ends and all, what reaches up into the notes would have to be longer than it is. -/
theorem return_not_mem_of_suffix {notes text : Text}
    (h : Text.dropNewlines text <:+ headed notes (Text.foldNewlines text)) :
    Letter.char '\r' ∉ text := by
  intro hreturn
  have hkept : Letter.char '\r' ∈ Text.dropNewlines text :=
    (Text.mem_dropNewlines (by decide)).mpr hreturn
  let earlier := Text.dropNewlines (Text.foldNewlines text)
  have hearlier : Letter.char '\r' ∉ earlier := fun hmem =>
    Text.return_not_mem_foldNewlines text ((Text.dropNewlines_suffix _).subset hmem)
  have hbelow : Letter.char '\r' ∉ below earlier := return_not_mem_below hearlier
  rw [headed_eq] at h
  cases List.suffix_or_suffix_of_suffix h (List.suffix_append (Text.strip notes) (below earlier)) with
  | inl hshort => exact hbelow (hshort.subset hkept)
  | inr hlong =>
      obtain ⟨reach, hreach⟩ := hlong
      have hne : reach ≠ [] := by
        rintro rfl
        rw [← hreach] at hkept
        exact hbelow hkept
      obtain ⟨front, last, rfl⟩ : ∃ front last, reach = front ++ [last] :=
        ⟨_, _, (List.dropLast_concat_getLast hne).symm⟩
      obtain ⟨before, hbefore⟩ := h
      have hstrip : Text.strip notes = before ++ front ++ [last] := by
        rw [← hreach, ← List.append_assoc] at hbefore
        rw [List.append_assoc]
        exact (List.append_cancel_right hbefore).symm
      have hlast : Text.isBlank last = false := Text.isBlank_of_strip_eq hstrip
      have hnewline : last ≠ '\n' := by
        rintro rfl
        exact absurd hlast (by decide)
      have hnoReturn : Letter.char '\r' ∉ last :: below earlier := by
        rw [List.mem_cons, not_or]
        refine ⟨?_, hbelow⟩
        rintro rfl
        exact absurd hlast (by decide)
      have hfolded : Text.foldNewlines (Text.dropNewlines text) =
          Text.foldNewlines front ++ last :: below earlier := by
        rw [← hreach, List.append_assoc, List.singleton_append, Text.foldNewlines_append hnewline,
          Text.foldNewlines_eq_self hnoReturn]
      have hlonger : last :: below earlier <:+ earlier := by
        have hkeeps := Text.suffix_dropNewlines_append hnewline (Text.foldNewlines front)
          (below earlier)
        rwa [← hfolded, Text.dropNewlines_foldNewlines] at hkeeps
      have hlength := hlonger.length_le
      have hshorter := (suffix_below earlier).length_le
      rw [List.length_cons] at hlength
      omega

/-- After each of a series of releases the file ends with the text that it held before the first, less
the line feeds which that text began with. -/
def KeepsEarlier (tree : FileTree) (path : Path) (text : Text) (sections : List Text) : Prop :=
  ∀ done, done <+: sections →
    ∃ stored, storedText (prependAll tree path done) path = .ok stored ∧
      Text.dropNewlines text <:+ stored

theorem keepsEarlier_eq {tree : FileTree} {path : Path} {text : Text} (hnames : path.names ≠ [])
    (h : storedText tree path = .ok text) (sections : List Text) :
    KeepsEarlier tree path text sections ↔
      ∀ done, done <+: sections →
        Text.dropNewlines text <:+ done.foldl (fun text notes => afterPrepend notes text) text := by
  apply forall_congr'
  intro done
  apply imp_congr_right
  intro _
  rw [storedText_prependAll hnames h done]
  constructor
  · rintro ⟨stored, hstored, hkept⟩
    cases hstored
    exact hkept
  · exact fun hkept => ⟨_, rfl, hkept⟩

/-- The earlier text stays as it was exactly if there is nothing to keep, or no carriage return in it
and no release that cannot be written. -/
theorem keepsEarlier_iff {tree : FileTree} {path : Path} {text : Text}
    (hbase : tree.entry? tree.base = some .folder) (h : storedText tree path = .ok text)
    (sections : List Text) :
    KeepsEarlier tree path text sections ↔
      Text.dropNewlines text = [] ∨
        ((sections = [] ∨ Letter.char '\r' ∉ text) ∧
          ∀ notes ∈ sections, Utf8.obstacle? notes = none) := by
  rw [keepsEarlier_eq (names_ne_nil hbase h) h]
  constructor
  · intro hkept
    by_cases hnothing : Text.dropNewlines text = []
    · exact Or.inl hnothing
    · have hencodable : ∀ notes ∈ sections, Utf8.obstacle? notes = none := by
        intro notes hnotes
        obtain ⟨before, after, rfl⟩ := List.append_of_mem hnotes
        have hdone := hkept (before ++ [notes]) ⟨after, by simp⟩
        rw [List.foldl_append, List.foldl_cons, List.foldl_nil] at hdone
        cases hobstacle : Utf8.obstacle? notes with
        | none => rfl
        | some obstacle =>
            rw [afterPrepend, hobstacle] at hdone
            exact absurd (List.suffix_nil.mp hdone) hnothing
      refine Or.inr ⟨?_, hencodable⟩
      cases sections with
      | nil => exact Or.inl rfl
      | cons notes sections =>
          have hfirst := hkept [notes] (List.prefix_append [notes] sections)
          rw [List.foldl_cons, List.foldl_nil, afterPrepend,
            hencodable notes List.mem_cons_self] at hfirst
          exact Or.inr (return_not_mem_of_suffix hfirst)
  · rintro (hnothing | ⟨hreturn, hencodable⟩) done hdone
    · rw [hnothing]
      exact List.nil_suffix
    · cases hreturn with
      | inl hnone =>
          subst hnone
          rw [List.prefix_nil.mp hdone]
          exact Text.dropNewlines_suffix text
      | inr hreturn =>
          have hdropped : Text.dropNewlines (Text.dropNewlines text) = Text.dropNewlines text := by
            cases hfirst : Text.dropNewlines text with
            | nil => rfl
            | cons c rest => exact Text.dropNewlines_cons (Text.first_of_dropNewlines hfirst) rest
          exact suffix_foldl_afterPrepend
            (fun hmem => hreturn ((Text.dropNewlines_suffix text).subset hmem)) hdropped
            (fun notes hnotes => hencodable notes (hdone.subset hnotes))
            (Text.dropNewlines_suffix text)

theorem keepsEarlier_two_releases :
    let path := Path.ofText "CHANGELOG.md".text
    let text := "\n## 0.9.0\n\n- Old".text
    let tree : FileTree :=
      ⟨[(["CHANGELOG.md".text], .file (Utf8.encodeChars "\n## 0.9.0\n\n- Old".toList))],
       [], by decide⟩
    tree.entry? tree.base = some .folder ∧ storedText tree path = .ok text ∧
      KeepsEarlier tree path text ["## 1.0.0\r\n\r\n- New ".text, "## 1.1.0".text] := by
  intro path text tree
  have hbase : tree.entry? tree.base = some .folder := rfl
  have hstored : storedText tree path = .ok text := rfl
  refine ⟨hbase, hstored, (keepsEarlier_iff hbase hstored _).mpr (Or.inr ⟨Or.inr ?_, ?_⟩)⟩
  · decide
  · decide

/-- Line ends of two letters become line ends of one. -/
theorem not_keepsEarlier_returns :
    let path := Path.ofText "CHANGELOG.md".text
    let text := "## 0.9.0\r\n\r\n- Old\r\n".text
    let tree : FileTree :=
      ⟨[(["CHANGELOG.md".text], .file (Utf8.encodeChars "## 0.9.0\r\n\r\n- Old\r\n".toList))],
        [], by decide⟩
    storedText tree path = .ok text ∧
      storedText (prependAll tree path ["## 1.0.0".text]) path =
        .ok "## 1.0.0\n\n## 0.9.0\n\n- Old\n".text ∧
      ¬ KeepsEarlier tree path text ["## 1.0.0".text] := by
  intro path text tree
  have hstored : storedText tree path = .ok text := rfl
  have hafter : storedText (prependAll tree path ["## 1.0.0".text]) path =
      .ok "## 1.0.0\n\n## 0.9.0\n\n- Old\n".text := rfl
  refine ⟨hstored, hafter, ?_⟩
  intro hkept
  obtain ⟨stored, hstored, hsuffix⟩ := hkept ["## 1.0.0".text] (List.prefix_refl _)
  rw [hafter] at hstored
  cases hstored
  exact absurd hsuffix (by decide)

end ReleaseNotes.ChangelogFile
