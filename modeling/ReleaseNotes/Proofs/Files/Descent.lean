import ReleaseNotes.Proofs.Files.Asked
import ReleaseNotes.Proofs.Files.Reading

namespace ReleaseNotes.FileTree

/-!
The way from the root down to a place. It ends at the first name that cannot be looked up: because
it is too long for the folder it would stand in, or because there is no folder it could stand in.
-/

/-- A place as the tree lists it. -/
def listed (place : Location) : Location :=
  place.map Utf8.listedName

/-- A folder that stands in folders up to the root. -/
def IsFolder (tree : FileTree) (place : Location) : Prop :=
  ∀ outer, outer <:+ place → tree.entry? (listed outer) = some .folder

/-- Whatever it is, there is something of that name in a folder. -/
def Holds (tree : FileTree) (place : Location) (name : Text) : Prop :=
  tree.IsFolder place ∧ tree.entry? (listed (name :: place)) ≠ none

/-- A name on the way to a place is too long, in a folder that is there. -/
def IsOverlong (tree : FileTree) (place : Location) : Prop :=
  ∃ name outer, name :: outer <:+ place ∧ tree.IsFolder outer ∧ nameLimit < Utf8.size name

variable {tree : FileTree} {name : Text} {place outer : Location}

theorem isFolder_nil (tree : FileTree) : tree.IsFolder [] := by
  intro outer houter
  rw [List.suffix_nil.mp houter]
  rfl

theorem isFolder_cons_iff : tree.IsFolder (name :: outer) ↔
    tree.entry? (listed (name :: outer)) = some .folder ∧ tree.IsFolder outer := by
  simp only [IsFolder, List.suffix_cons_iff, forall_eq_or_imp]

theorem isFolder_iff : tree.IsFolder place ↔
    tree.entry? (listed place) = some .folder ∧ tree.IsFolder place.tail := by
  cases place with
  | nil => exact ⟨fun h => ⟨rfl, h⟩, And.right⟩
  | cons name outer => exact isFolder_cons_iff

theorem not_isOverlong_nil (tree : FileTree) : ¬ tree.IsOverlong [] := by
  rintro ⟨name, outer, hsuffix, _⟩
  exact List.cons_ne_nil name outer (List.suffix_nil.mp hsuffix)

theorem isOverlong_cons_iff : tree.IsOverlong (name :: outer) ↔
    (tree.IsFolder outer ∧ nameLimit < Utf8.size name) ∨ tree.IsOverlong outer := by
  constructor
  · rintro ⟨long, above, hsuffix, hfolder, hlong⟩
    cases List.suffix_cons_iff.mp hsuffix with
    | inl heq =>
        obtain ⟨rfl, rfl⟩ := List.cons.inj heq
        exact .inl ⟨hfolder, hlong⟩
    | inr habove => exact .inr ⟨long, above, habove, hfolder, hlong⟩
  · rintro (⟨hfolder, hlong⟩ | ⟨long, above, hsuffix, hfolder, hlong⟩)
    · exact ⟨name, outer, List.suffix_rfl, hfolder, hlong⟩
    · exact ⟨long, above, hsuffix.trans (List.suffix_cons name outer), hfolder, hlong⟩

theorem IsOverlong.of_suffix (h : tree.IsOverlong outer) (hsuffix : outer <:+ place) :
    tree.IsOverlong place := by
  obtain ⟨name, above, habove, hfolder, hlong⟩ := h
  exact ⟨name, above, habove.trans hsuffix, hfolder, hlong⟩

/-- How the way down to a place can end. -/
inductive Descent (tree : FileTree) (place : Location) : Except FileFault Location → Prop
  | tooLong : tree.IsOverlong place → Descent tree place (.error .nameTooLong)
  | reached : ¬ tree.IsOverlong place → tree.IsFolder place.tail →
      Descent tree place (.ok (listed place))
  | stopped {fault : FileFault} : ¬ tree.IsOverlong place → ¬ tree.IsFolder place.tail →
      fault ≠ .nameTooLong → Descent tree place (.error fault)

theorem IsFolder.entry?_eq (h : tree.IsFolder place) : tree.entry? (listed place) = some .folder :=
  h place List.suffix_rfl

theorem not_isFolder_of_entry?_ne (h : tree.entry? (listed place) ≠ some .folder) :
    ¬ tree.IsFolder place :=
  fun hfolder => h hfolder.entry?_eq

theorem descent_cons_of_not_folder (hlong : ¬ tree.IsOverlong outer) (hfolder : ¬ tree.IsFolder outer)
    {fault : FileFault} (hfault : fault ≠ .nameTooLong) :
    Descent tree (name :: outer) (.error fault) := by
  refine .stopped ?_ hfolder hfault
  rw [isOverlong_cons_iff, not_or, not_and]
  exact ⟨fun h => absurd h hfolder, hlong⟩

/-- One name further down from a place that was reached. -/
theorem descent_cons (hname : name ≠ "..".text) (hlong : ¬ tree.IsOverlong outer)
    (habove : tree.IsFolder outer.tail) :
    Descent tree (name :: outer) (tree.walk (listed outer) [name]) := by
  rw [walk]
  split
  · rename_i hentry
    have hfolder : ¬ tree.IsFolder outer := not_isFolder_of_entry?_ne (by simp [hentry])
    exact descent_cons_of_not_folder hlong hfolder (by decide)
  · rename_i hentry
    have hfolder : ¬ tree.IsFolder outer := not_isFolder_of_entry?_ne (by simp [hentry])
    exact descent_cons_of_not_folder hlong hfolder (by decide)
  · rename_i hentry
    have hfolder : tree.IsFolder outer := isFolder_iff.mpr ⟨hentry, habove⟩
    split
    · rename_i hsize
      exact .tooLong (isOverlong_cons_iff.mpr (.inl ⟨hfolder, hsize⟩))
    · rename_i hsize
      rw [walk]
      refine .reached ?_ hfolder
      rw [isOverlong_cons_iff, not_or, not_and]
      exact ⟨fun _ => hsize, hlong⟩

theorem descent_walk (tree : FileTree) (hplace : ∀ name ∈ place, name ≠ "..".text) :
    Descent tree place (tree.walk [] place.reverse) := by
  induction place with
  | nil => exact .reached (not_isOverlong_nil tree) (isFolder_nil tree)
  | cons name outer ih =>
      obtain ⟨hname, houter⟩ := List.forall_mem_cons.mp hplace
      rw [List.reverse_cons, walk_append]
      have hdescent := ih houter
      generalize tree.walk [] outer.reverse = result at hdescent
      cases hdescent with
      | tooLong hlong => exact .tooLong (isOverlong_cons_iff.mpr (.inr hlong))
      | reached hlong habove => exact descent_cons hname hlong habove
      | stopped hlong habove hfault =>
          exact descent_cons_of_not_folder hlong (fun h => habove (isFolder_iff.mp h).2) hfault

/-! Asking for a place. -/

/-- The path of a place is too long, or one of the names on the way is. -/
def IsOutOfReach (tree : FileTree) (place : Location) : Prop :=
  pathLimit < Utf8.size (placeText place) ∨ tree.IsOverlong place

theorem not_isOutOfReach_of_short (hpath : Utf8.size (placeText place) ≤ pathLimit)
    (hnames : ∀ name ∈ place, Utf8.size name ≤ nameLimit) : ¬ tree.IsOutOfReach place := by
  rintro (hsize | ⟨name, outer, hsuffix, _, hlong⟩)
  · exact Nat.not_lt.mpr hpath hsize
  · exact Nat.not_lt.mpr (hnames name (hsuffix.subset List.mem_cons_self)) hlong

theorem check_placePath (h : IsProper place) : (placePath place).check = .ok () :=
  Path.check_eq_ok_iff_names.mpr fun name hname => (h name (List.mem_reverse.mp hname)).1

theorem find_placePath (tree : FileTree) (place : Location) :
    tree.find (placePath place) =
      if pathLimit < Utf8.size (placeText place) then .error .nameTooLong
      else (tree.walk [] place.reverse).bind fun found =>
        match tree.entry? found with
        | none => .error .missing
        | some entry => .ok (found, entry) := by
  have hlong : isTooLong (placePath place).text =
      decide (pathLimit < Utf8.size (placeText place)) := rfl
  by_cases hsize : pathLimit < Utf8.size (placeText place)
  · rw [find, locate, hlong, decide_eq_true hsize, if_pos hsize]
    rfl
  · rw [find, locate, hlong, decide_eq_false hsize, if_neg hsize]
    rfl

theorem exists?_of_isOutOfReach (hplace : IsProper place) (h : tree.IsOutOfReach place) :
    tree.exists? (placePath place) = .error (.refused .nameTooLong (placePath place)) := by
  rw [exists?_eq_error_iff]
  refine ⟨check_placePath hplace, ?_, rfl⟩
  rw [find_placePath]
  split
  · rfl
  · rename_i hsize
    have hdescent := descent_walk tree fun name hname => (hplace name hname).2
    generalize tree.walk [] place.reverse = result at hdescent
    cases hdescent with
    | tooLong hlong => rfl
    | reached hlong => exact absurd (h.resolve_left hsize) hlong
    | stopped hlong => exact absurd (h.resolve_left hsize) hlong

theorem exists?_of_not_isOutOfReach (hplace : IsProper (name :: place))
    (h : ¬ tree.IsOutOfReach (name :: place)) :
    ∃ found, tree.exists? (placePath (name :: place)) = .ok found ∧
      (found = true ↔ tree.Holds place name) := by
  obtain ⟨hsize, hshort⟩ := not_or.mp h
  rw [exists?, check_placePath hplace, find_placePath, if_neg hsize]
  have hdescent := descent_walk tree fun other hother => (hplace other hother).2
  generalize tree.walk [] (name :: place).reverse = result at hdescent
  cases hdescent with
  | tooLong hlong => exact absurd hlong hshort
  | reached _ hfolder =>
      dsimp only [Except.bind]
      cases hentry : tree.entry? (listed (name :: place)) with
      | none => exact ⟨false, rfl, nofun, fun hholds => absurd hentry hholds.2⟩
      | some entry => exact ⟨true, rfl, fun _ => ⟨hfolder, by rw [hentry]; exact nofun⟩, fun _ => rfl⟩
  | @stopped fault _ hfolder hfault =>
      refine ⟨false, ?_, nofun, fun hholds => absurd hholds.1 hfolder⟩
      cases fault with
      | nameTooLong => exact absurd rfl hfault
      | missing => rfl
      | «exists» => rfl
      | notFolder => rfl
      | isFolder => rfl

end ReleaseNotes.FileTree
