import ReleaseNotes.Proofs.Files.Parent

namespace ReleaseNotes

namespace Utf8

/-!
A path can be asked for exactly if each letter of its names can: the byte zero is that of U+0000
alone, and half a pair has to stand for a byte.
-/

theorem isName_iff {name : Text} :
    isName name = true ↔ ∀ letter ∈ name, isNameLetter letter = true :=
  List.all_eq_true

theorem byte_eq_zero_iff {n : Nat} (h : n < 256) : byte n = 0 ↔ n = 0 := by
  rw [byte, UInt8.ofNat_eq_iff_mod_eq_toNat]
  show n % 256 = 0 ↔ n = 0
  omega

theorem zero_mem_encodeChar {c : Char} : (0 : UInt8) ∈ encodeChar c ↔ c = '\x00' := by
  have hvalid : c.toNat < 0xD800 ∨ 0xDFFF < c.toNat ∧ c.toNat < 0x110000 := c.valid
  have hzero : c = '\x00' ↔ c.toNat = 0 := Char.toNat_inj.symm
  unfold encodeChar
  rw [hzero]
  dsimp only
  split
  · rw [List.mem_singleton, eq_comm, byte_eq_zero_iff (by omega)]
  · split
    · simp only [List.mem_cons, List.not_mem_nil, or_false, @eq_comm _ (0 : UInt8)]
      rw [byte_eq_zero_iff (by omega), byte_eq_zero_iff (by omega)]
      omega
    · split
      · simp only [List.mem_cons, List.not_mem_nil, or_false, @eq_comm _ (0 : UInt8)]
        rw [byte_eq_zero_iff (by omega), byte_eq_zero_iff (by omega), byte_eq_zero_iff (by omega)]
        omega
      · simp only [List.mem_cons, List.not_mem_nil, or_false, @eq_comm _ (0 : UInt8)]
        rw [byte_eq_zero_iff (by omega), byte_eq_zero_iff (by omega), byte_eq_zero_iff (by omega),
          byte_eq_zero_iff (by omega)]
        omega

theorem zero_not_mem_encodeLetter {half : Surrogate} (h : isNameByte half = true) :
    (0 : UInt8) ∉ encodeLetter (.surrogate half) := by
  simp only [isNameByte, Bool.and_eq_true, decide_eq_true_eq] at h
  rw [encodeLetter, List.mem_singleton, eq_comm, byte_eq_zero_iff (by omega)]
  omega

end Utf8

namespace Path

theorem check_eq_ok_iff_letters {path : Path} :
    path.check = .ok () ↔ ∀ letter ∈ path.text, Utf8.isNameLetter letter = true := by
  rw [check_eq_ok_iff]
  constructor
  · rintro ⟨hhalves, hzero⟩ letter hletter
    cases letter with
    | char c =>
        rw [Utf8.isNameLetter, decide_eq_true_eq]
        rintro rfl
        exact hzero (List.mem_flatMap.mpr ⟨_, hletter, Utf8.zero_mem_encodeChar.mpr rfl⟩)
    | surrogate half => exact hhalves half hletter
  · intro h
    refine ⟨fun half hhalf => h _ hhalf, fun hzero => ?_⟩
    obtain ⟨letter, hletter, hbyte⟩ := List.mem_flatMap.mp hzero
    have hname := h letter hletter
    cases letter with
    | char c =>
        rw [Utf8.isNameLetter, decide_eq_true_eq] at hname
        exact hname (Utf8.zero_mem_encodeChar.mp hbyte)
    | surrogate half => exact Utf8.zero_not_mem_encodeLetter hname hbyte

theorem check_eq_ok_iff_names {path : Path} :
    path.check = .ok () ↔ ∀ name ∈ path.names, Utf8.isName name = true := by
  rw [check_eq_ok_iff_letters]
  by_cases hpath : path = ⟨0, []⟩
  · subst hpath
    simp [text, Utf8.isNameLetter]
  · rw [text_eq hpath]
    constructor
    · intro h name hname
      rw [Utf8.isName_iff]
      exact fun letter hletter =>
        h letter (List.mem_append_right _ (Text.mem_joined hname hletter))
    · intro h letter hletter
      have hslash : Utf8.isNameLetter '/' = true := by decide
      cases List.mem_append.mp hletter with
      | inl hroot => exact (List.eq_of_mem_replicate hroot) ▸ hslash
      | inr hjoined =>
          rcases Text.mem_of_mem_joined hjoined with hbetween | ⟨name, hname, hinside⟩
          · exact (List.mem_singleton.mp hbetween) ▸ hslash
          · exact Utf8.isName_iff.mp (h name hname) letter hinside

theorem mem_enter {way : Path} {name other : Text} (h : other ∈ (way.enter name).names) :
    other ∈ way.names ∨ other = name := by
  have hchild : other ∈ (way.child name).names → other ∈ way.names ∨ other = name := by
    intro hmem
    rw [child, List.mem_append, List.mem_singleton] at hmem
    exact hmem
  unfold enter at h
  split at h
  · split at h
    · split at h
      · exact .inl h
      · exact hchild h
    · split at h
      · exact hchild h
      · exact .inl ((List.dropLast_sublist way.names).subset h)
  · exact hchild h

theorem check_enter {way : Path} (hway : ∀ name ∈ way.names, Utf8.isName name = true)
    (name : Text) : (way.enter name).check = .ok () ↔ Utf8.isName name = true := by
  rw [check_eq_ok_iff_names]
  constructor
  · intro h
    by_cases hdots : name = "..".text
    · rw [hdots]
      decide
    · apply h
      rw [enter, if_neg hdots, child]
      exact List.mem_concat_self
  · intro hname other hother
    cases mem_enter hother with
    | inl hmem => exact hway other hmem
    | inr heq => exact heq ▸ hname

end Path

namespace FileTree

theorem checkWay_eq_ok_iff (way : Path) (hway : ∀ name ∈ way.names, Utf8.isName name = true)
    (names : List Text) :
    checkWay way names = .ok () ↔ ∀ name ∈ names, Utf8.isName name = true := by
  induction names generalizing way with
  | nil => exact ⟨fun _ _ h => absurd h List.not_mem_nil, fun _ => rfl⟩
  | cons name names ih =>
      rw [checkWay, List.forall_mem_cons, ← Path.check_enter hway name]
      cases hcheck : (way.enter name).check with
      | error error =>
          constructor
          · intro h
            cases h
          · rintro ⟨h, _⟩
            cases h
      | ok asked =>
          have hname := (Path.check_enter hway name).mp hcheck
          have henter : ∀ other ∈ (way.enter name).names, Utf8.isName other = true := by
            intro other hother
            cases Path.mem_enter hother with
            | inl hmem => exact hway other hmem
            | inr heq => exact heq ▸ hname
          exact (ih _ henter).trans ⟨fun h => ⟨rfl, h⟩, And.right⟩

theorem resolve_eq_ok_iff {tree : FileTree} {path : Path} {place : Location} :
    tree.resolve path = .ok place ↔
      (∀ name ∈ path.names, Utf8.isName name = true) ∧
        resolveFrom (tree.start path) path.names = place := by
  rw [resolve, ← checkWay_eq_ok_iff ⟨if path.isAbsolute then 1 else 0, []⟩
    (fun _ h => absurd h List.not_mem_nil)]
  split
  · rename_i hcheck
    simp [hcheck]
  · rename_i hcheck
    simp [hcheck]

/-! Where a text leads by its parts alone, and the names on the way. -/

def enterPart (place : Location) (part : Text) : Location :=
  if part = [] ∨ part = ".".text then place
  else if part = "..".text then place.tail
  else part :: place

/-- From the root if the text begins with a slash, else from the base. -/
def placeNamed (tree : FileTree) (text : Text) : Location :=
  (text.splitOn (.char '/')).foldl enterPart
    (if text.head? = some (.char '/') then [] else tree.base)

theorem isSaid_iff {part : Text} : Path.isSaid part = true ↔ ¬ (part = [] ∨ part = ".".text) := by
  simp [Path.isSaid]

theorem resolveFrom_ofText (tree : FileTree) (text : Text) :
    resolveFrom (tree.start (Path.ofText text)) (Path.ofText text).names =
      tree.placeNamed text := by
  have hstart : tree.start (Path.ofText text) =
      if text.head? = some (.char '/') then [] else tree.base := by
    simp only [start, Path.isAbsolute_ofText]
  have hnames : (Path.ofText text).names = (text.splitOn (.char '/')).filter Path.isSaid := rfl
  rw [hstart, hnames, resolveFrom, List.foldl_filter, placeNamed]
  congr
  funext place part
  by_cases hpart : part = [] ∨ part = ".".text
  · rw [enterPart, if_pos hpart, if_neg fun hsaid => isSaid_iff.mp hsaid hpart]
  · rw [enterPart, if_neg hpart, if_pos (isSaid_iff.mpr hpart)]

theorem isName_ofText {text : Text} :
    (∀ name ∈ (Path.ofText text).names, Utf8.isName name = true) ↔ Utf8.isName text = true := by
  have hnames : (Path.ofText text).names = (text.splitOn (.char '/')).filter Path.isSaid := rfl
  have hjoined : Text.joined ['/'] (text.splitOn (.char '/')) = text := List.intercalate_splitOn _
  rw [hnames, Utf8.isName_iff]
  constructor
  · intro h letter hletter
    rw [← hjoined] at hletter
    rcases Text.mem_of_mem_joined hletter with hslash | ⟨part, hpart, hinside⟩
    · rw [List.mem_singleton.mp hslash]
      decide
    · have hname : Utf8.isName part = true := by
        by_cases hdrop : part = [] ∨ part = ".".text
        · rcases hdrop with rfl | rfl <;> decide
        · exact h part (List.mem_filter.mpr ⟨hpart, isSaid_iff.mpr hdrop⟩)
      exact Utf8.isName_iff.mp hname letter hinside
  · intro h name hname
    obtain ⟨hpart, _⟩ := List.mem_filter.mp hname
    rw [Utf8.isName_iff]
    intro letter hletter
    apply h
    rw [← hjoined]
    exact Text.mem_joined hpart hletter

theorem resolve_ofText_eq_ok_iff {tree : FileTree} {text : Text} {place : Location} :
    tree.resolve (Path.ofText text) = .ok place ↔
      Utf8.isName text = true ∧ tree.placeNamed text = place := by
  rw [resolve_eq_ok_iff, isName_ofText, resolveFrom_ofText]

theorem isProper_resolveFrom {place : Location} {names : List Text} (hplace : IsProper place)
    (hnames : ∀ name ∈ names, Utf8.isName name = true) : IsProper (resolveFrom place names) := by
  induction names generalizing place with
  | nil => exact hplace
  | cons name names ih =>
      obtain ⟨hname, hrest⟩ := List.forall_mem_cons.mp hnames
      apply ih _ hrest
      dsimp only
      split
      · exact fun other hother => hplace other (List.mem_of_mem_tail hother)
      · rename_i hdots
        exact List.forall_mem_cons.mpr ⟨⟨hname, hdots⟩, hplace⟩

theorem isProper_resolve {tree : FileTree} {path : Path} {place : Location}
    (h : tree.resolve path = .ok place) : IsProper place := by
  obtain ⟨hnames, rfl⟩ := resolve_eq_ok_iff.mp h
  apply isProper_resolveFrom _ hnames
  unfold start
  split
  · exact fun _ h => absurd h List.not_mem_nil
  · exact tree.base_proper

theorem isProper_placeNamed {tree : FileTree} {text : Text} (htext : Utf8.isName text = true) :
    IsProper (tree.placeNamed text) :=
  isProper_resolve (resolve_ofText_eq_ok_iff.mpr ⟨htext, rfl⟩)

end FileTree

end ReleaseNotes
