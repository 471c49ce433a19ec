import ReleaseNotes.Proofs.ChangelogFile.Stored
import ReleaseNotes.Proofs.Text.LineEnds

namespace ReleaseNotes.ChangelogFile

/-!
A changelog that begins with its first release grows at the top. The releases stand one above the
other with one empty line between any two of them, and a blank release leaves no trace once another
one has followed it.
-/

variable {tree : FileTree} {path : Path}

/-- A path that only says where to start leads to a folder, so something is there. -/
theorem names_ne_nil_of_fresh (hbase : tree.entry? tree.base = some .folder)
    (hfresh : tree.exists? path = .ok false) (hcheck : path.check = .ok ()) : path.names ≠ [] := by
  intro hnames
  have hstart : tree.entry? (tree.start path) = some .folder := by
    rw [FileTree.start]
    split
    · rfl
    · exact hbase
  cases hlong : FileTree.isTooLong path.text with
  | true =>
      have hlocate : tree.locate path = .error .nameTooLong := by rw [FileTree.locate, if_pos hlong]
      simp only [FileTree.exists?, FileTree.find, hcheck, hlocate, bind, Except.bind] at hfresh
      cases hfresh
  | false =>
      have hlocate : tree.locate path = .ok (tree.start path) := by
        rw [FileTree.locate, hlong, hnames]
        rfl
      simp only [FileTree.exists?, FileTree.find, hcheck, hlocate, hstart, bind,
        Except.bind] at hfresh
      cases hfresh

/-- A file that is not there yet is written like an empty one. -/
theorem storedText_prepend_fresh (hfresh : tree.exists? path = .ok false)
    (hwrite : CanWrite tree path) (notes : Text) :
    storedText (prepend tree path notes).1 path = .ok (afterPrepend notes []) := by
  obtain ⟨outer, folder, place, hfolders, hplace⟩ := hwrite.place
  have hprevious : previousText tree path = .ok [] := by rw [previousText, hfresh]
  rw [prepend, hprevious]
  simp only [write, inFolders, hfolders]
  rw [storedText_writeText hplace, written_headed rfl]
  rfl

theorem storedText_prependAll_fresh (hbase : tree.entry? tree.base = some .folder)
    (hfresh : tree.exists? path = .ok false) (hwrite : CanWrite tree path) {sections : List Text}
    (hsections : sections ≠ []) :
    storedText (prependAll tree path sections) path =
      .ok (sections.foldl (fun text notes => afterPrepend notes text) []) := by
  obtain ⟨first, later, rfl⟩ := List.exists_cons_of_ne_nil hsections
  obtain ⟨outer, folder, place, _, hplace⟩ := hwrite.place
  have hnames := names_ne_nil_of_fresh hbase hfresh (FileTree.check_of_placeForFile hplace)
  exact storedText_prependAll hnames (storedText_prepend_fresh hfresh hwrite first) later

/-! Releases one above the other. -/

/-- The trimmed texts of the releases that are more than blanks, the newest first. -/
def releases (sections : List Text) : List Text :=
  ((sections.map Text.strip).filter (· ≠ [])).reverse

theorem releases_concat (sections : List Text) (notes : Text) :
    releases (sections ++ [notes]) =
      if Text.strip notes = [] then releases sections
      else Text.strip notes :: releases sections := by
  by_cases h : Text.strip notes = []
  · simp [releases, h]
  · simp [releases, h]

def stacked : List Text → Text
  | [] => []
  | notes :: earlier => notes ++ below (stacked earlier)

theorem below_ne_nil (earlier : Text) : below earlier ≠ [] := by
  cases earlier with
  | nil => exact List.cons_ne_nil _ _
  | cons c earlier => exact List.cons_ne_nil _ _

theorem stacked_eq_joined {texts : List Text} (h : texts ≠ []) :
    stacked texts = Text.joined (Text.newline ++ Text.newline) texts ++ Text.newline := by
  induction texts with
  | nil => exact absurd rfl h
  | cons notes earlier ih =>
      cases earlier with
      | nil => simp [stacked, below, Text.joined]
      | cons next earlier =>
          have hbelow : below (stacked (next :: earlier)) =
              Text.newline ++ Text.newline ++ stacked (next :: earlier) := by
            obtain ⟨c, rest, hrest⟩ := List.exists_cons_of_ne_nil
              (List.append_ne_nil_of_right_ne_nil next (below_ne_nil (stacked earlier)))
            rw [stacked, hrest]
            rfl
          rw [stacked, hbelow, ih (List.cons_ne_nil next earlier), Text.joined, Text.joined,
            List.intercalate_cons_cons]
          simp only [List.append_assoc]

/-- While releases pile up the file holds them all, maybe below the line feeds of a blank one. -/
structure Holds (text : Text) (earlier : List Text) : Prop where
  stacked : Text.dropNewlines text = stacked earlier
  no_return : Letter.char '\r' ∉ text

theorem Holds.headed_eq {text : Text} {earlier : List Text} (h : Holds text earlier)
    (notes : Text) :
    headed notes (Text.foldNewlines text) =
      Text.strip notes ++ below (ChangelogFile.stacked earlier) := by
  rw [ChangelogFile.headed_eq, Text.foldNewlines_eq_self h.no_return, h.stacked]

theorem dropNewlines_below {earlier : Text} (h : Text.dropNewlines earlier = earlier) :
    Text.dropNewlines (below earlier) = earlier := by
  cases earlier with
  | nil => rfl
  | cons c earlier =>
      show Text.dropNewlines (Text.newline ++ Text.newline ++ c :: earlier) = c :: earlier
      rw [Text.newline, List.append_assoc, List.singleton_append, List.singleton_append,
        Text.dropNewlines_newline, Text.dropNewlines_newline, h]

theorem Holds.afterPrepend {text notes : Text} {earlier : List Text} (h : Holds text earlier)
    (hnotes : Utf8.obstacle? notes = none) (hreturn : Letter.char '\r' ∉ notes) :
    Holds (afterPrepend notes text)
      (if Text.strip notes = [] then earlier else Text.strip notes :: earlier) := by
  rw [ChangelogFile.afterPrepend, hnotes]
  show Holds (headed notes (Text.foldNewlines text)) _
  rw [h.headed_eq notes]
  have hnormal : Text.dropNewlines (ChangelogFile.stacked earlier) =
      ChangelogFile.stacked earlier := by
    rw [← h.stacked]
    exact List.dropWhile_idempotent _ _
  have hbelow : Letter.char '\r' ∉ below (ChangelogFile.stacked earlier) := by
    apply return_not_mem_below
    rw [← h.stacked]
    exact fun hmem => h.no_return ((Text.dropNewlines_suffix text).subset hmem)
  have hstrip : Letter.char '\r' ∉ Text.strip notes := fun hmem =>
    hreturn (Text.mem_of_mem_strip hmem)
  refine ⟨?_, fun hmem => (List.mem_append.mp hmem).elim hstrip hbelow⟩
  cases hfirst : Text.strip notes with
  | nil =>
      rw [List.nil_append, if_pos rfl]
      exact dropNewlines_below hnormal
  | cons c rest =>
      have hnewline : c ≠ '\n' := by
        rintro rfl
        exact absurd (Text.isBlank_of_strip_cons hfirst) (by decide)
      rw [List.cons_append, Text.dropNewlines_cons hnewline, if_neg (List.cons_ne_nil c rest)]
      rfl

theorem holds_foldl {sections : List Text}
    (hencodable : ∀ notes ∈ sections, Utf8.obstacle? notes = none)
    (hreturn : ∀ notes ∈ sections, Letter.char '\r' ∉ notes) :
    Holds (sections.foldl (fun text notes => afterPrepend notes text) []) (releases sections) := by
  induction sections using List.reverseRecOn with
  | nil => exact ⟨rfl, List.not_mem_nil⟩
  | append_singleton sections notes ih =>
      obtain ⟨hencodable, hnotes⟩ := List.forall_mem_append.mp hencodable
      obtain ⟨hreturn, hnotesReturn⟩ := List.forall_mem_append.mp hreturn
      rw [List.foldl_append, releases_concat]
      exact (ih hencodable hreturn).afterPrepend (hnotes notes List.mem_cons_self)
        (hnotesReturn notes List.mem_cons_self)

/-- The file holds each release that is more than blanks once, the newest first, with an empty line
between any two of them and a line end after the last. -/
def Accumulates (tree : FileTree) (path : Path) (sections : List Text) : Prop :=
  storedText (prependAll tree path sections) path =
    .ok (Text.joined (Text.newline ++ Text.newline) (releases sections) ++ Text.newline)

theorem mem_stacked {c : Letter} {notes : Text} {texts : List Text} (hnotes : notes ∈ texts)
    (hc : c ∈ notes) : c ∈ stacked texts := by
  induction texts with
  | nil => exact absurd hnotes List.not_mem_nil
  | cons first earlier ih =>
      rw [stacked, List.mem_append]
      cases List.mem_cons.mp hnotes with
      | inl heq => exact Or.inl (heq ▸ hc)
      | inr hmem => exact Or.inr ((suffix_below _).subset (ih hmem))

theorem obstacle?_of_stacked {sections : List Text}
    (h : Utf8.obstacle? (stacked (releases sections)) = none) :
    ∀ notes ∈ sections, Utf8.obstacle? notes = none := by
  intro notes hnotes
  rw [← Text.obstacle?_strip_eq_none_iff]
  by_cases hblank : Text.strip notes = []
  · rw [hblank]
    rfl
  · have hmem : Text.strip notes ∈ releases sections := by
      rw [releases, List.mem_reverse, List.mem_filter]
      exact ⟨List.mem_map_of_mem hnotes, decide_eq_true hblank⟩
    exact Utf8.obstacle?_of_mem h fun _ hc => mem_stacked hmem hc

/-- Releases accumulate exactly if each of them can be written. -/
theorem accumulates_iff {sections : List Text} {last : Text}
    (hbase : tree.entry? tree.base = some .folder) (hfresh : tree.exists? path = .ok false)
    (hwrite : CanWrite tree path)
    (hreturn : ∀ notes ∈ sections ++ [last], Letter.char '\r' ∉ notes)
    (hlast : Text.isAllBlank last = false) :
    Accumulates tree path (sections ++ [last]) ↔
      ∀ notes ∈ sections ++ [last], Utf8.obstacle? notes = none := by
  have hstrip : Text.strip last ≠ [] := Text.strip_ne_nil hlast
  have hreleases : releases (sections ++ [last]) = Text.strip last :: releases sections := by
    rw [releases_concat, if_neg hstrip]
  have hjoined := stacked_eq_joined (List.cons_ne_nil (Text.strip last) (releases sections))
  rw [← hreleases] at hjoined
  rw [Accumulates, ← hjoined, storedText_prependAll_fresh hbase hfresh hwrite
    (List.concat_ne_nil last sections)]
  constructor
  · intro hstored
    have hencodable := obstacle?_of_storedText
      ((storedText_prependAll_fresh hbase hfresh hwrite (List.concat_ne_nil last sections)).trans
        hstored)
    exact obstacle?_of_stacked hencodable
  · intro hencodable
    obtain ⟨hsections, hlast⟩ := List.forall_mem_append.mp hencodable
    have hholds := holds_foldl hsections (List.forall_mem_append.mp hreturn).1
    rw [List.foldl_append, List.foldl_cons, List.foldl_nil, afterPrepend,
      hlast last List.mem_cons_self, hreleases]
    exact congrArg Except.ok (hholds.headed_eq last)

theorem accumulates_around_blank :
    let path := Path.ofText "docs/CHANGELOG.md".text
    let tree : FileTree := ⟨[], [], by decide⟩
    let sections := [" \n".text, "## 0.9.0\n\n- Old \n".text, "\n\n".text, "## 1.0.0".text]
    let last := "\n## 1.1.0\n".text
    tree.entry? tree.base = some .folder ∧ tree.exists? path = .ok false ∧ CanWrite tree path ∧
      (∀ notes ∈ sections ++ [last], Letter.char '\r' ∉ notes) ∧ Text.isAllBlank last = false ∧
      (∀ notes ∈ sections ++ [last], Utf8.obstacle? notes = none) ∧
      Accumulates tree path (sections ++ [last]) := by
  intro path tree sections last
  have hbase : tree.entry? tree.base = some .folder := rfl
  have hfresh : tree.exists? path = .ok false := rfl
  have hwrite : CanWrite tree path := ⟨[], rfl⟩
  have hreturn : ∀ notes ∈ sections ++ [last], Letter.char '\r' ∉ notes := by decide
  have hlast : Text.isAllBlank last = false := by decide
  have hencodable : ∀ notes ∈ sections ++ [last], Utf8.obstacle? notes = none := by decide
  exact ⟨hbase, hfresh, hwrite, hreturn, hlast, hencodable,
    (accumulates_iff hbase hfresh hwrite hreturn hlast).mpr hencodable⟩

/-- A release with half a surrogate pair takes the one before it along. -/
theorem not_accumulates_half_pair :
    let path := Path.ofText "CHANGELOG.md".text
    let tree : FileTree := ⟨[], [], by decide⟩
    let half : Text := "## 1.0.0\n\n- ".text ++ [.surrogate ⟨0xD83D, by decide⟩]
    let sections := ["## 0.9.0\n\n- Old".text, half, "## 1.1.0\n\n- New".text]
    tree.exists? path = .ok false ∧ CanWrite tree path ∧
      (∀ notes ∈ sections, Letter.char '\r' ∉ notes) ∧
      storedText (prependAll tree path sections) path = .ok "## 1.1.0\n\n- New\n".text ∧
      ¬ Accumulates tree path sections := by
  intro path tree half sections
  have hfresh : tree.exists? path = .ok false := rfl
  have hwrite : CanWrite tree path := ⟨[], rfl⟩
  have hafter : storedText (prependAll tree path sections) path =
      .ok "## 1.1.0\n\n- New\n".text :=
    storedText_prependAll_fresh rfl hfresh hwrite (List.cons_ne_nil _ _)
  refine ⟨hfresh, hwrite, by decide, hafter, ?_⟩
  intro haccumulates
  have htexts := Except.ok.inj (hafter.symm.trans haccumulates)
  exact absurd htexts (by decide)

end ReleaseNotes.ChangelogFile
