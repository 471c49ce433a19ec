import ReleaseNotes.Proofs.Release.Notes
import ReleaseNotes.Proofs.Text.LineEnds
import ReleaseNotes.Settings.Basic

namespace ReleaseNotes

/-!
Of its messages the notes of a release show the first lines that are read as commits, and nothing
else; and they show them type by type, so that lines of different types may change places.
-/

theorem Text.firstLine_idempotent (text : Text) : firstLine (firstLine text) = firstLine text := by
  apply List.takeWhile_eq_self_iff.mpr
  intro letter hletter
  exact List.all_eq_true.mp List.all_takeWhile letter hletter

theorem Commit.read_firstLine (known : Text → Bool) (message : Text) :
    read known (Text.firstLine message) = read known message := by
  rw [read, read, Text.firstLine_idempotent]

theorem Groups.ordered_congr {order : SectionOrder} {categories : Categories}
    {commits others : List Commit} (hknown : known categories commits = commits)
    (hothers : known categories others = others)
    (htypes : sectionTypes order categories commits = sectionTypes order categories others)
    (hlines : ∀ type ∈ categories.keys, linesOf type commits = linesOf type others) :
    ordered order categories commits = ordered order categories others := by
  apply Table.eq_of_entries
  rw [entries_ordered, entries_ordered, hknown, hothers, ← htypes]
  apply List.map_congr_left
  intro type htype
  have hkey : type ∈ (ordered order categories commits).keys := by
    rw [keys_ordered, hknown]
    exact htype
  rw [hlines type (Table.contains_iff.mp (contains_of_mem_ordered hkey))]

namespace Release

variable (categories : Categories) (messages : List Text)

/-- The first lines of the messages that are read as commits. -/
def linesRead : List Text :=
  (messages.filter fun message => (Commit.read categories.contains message).isSome).map
    Text.firstLine

/-- The first lines of the messages that are read as commits of one type. -/
def linesReadAs (type : Text) : List Text :=
  (messages.filter fun message =>
    (Commit.read categories.contains message).any fun commit => commit.type = type).map
      Text.firstLine

/-- The types of the commits in the order in which they first come. -/
def typesSeen : List Text :=
  ((classified categories messages).map Commit.type).eraseDups

theorem classified_firstLines :
    classified categories (messages.map Text.firstLine) = classified categories messages := by
  rw [classified, List.filterMap_map]
  exact List.filterMap_congr fun message _ => Commit.read_firstLine _ message

theorem classified_linesRead :
    classified categories (linesRead categories messages) = classified categories messages := by
  rw [linesRead, classified_firstLines, classified, List.filterMap_filter]
  apply List.filterMap_congr
  intro message _
  cases Commit.read categories.contains message <;> rfl

theorem classified_linesReadAs (type : Text) :
    classified categories (linesReadAs categories messages type) =
      (classified categories messages).filter fun commit => commit.type = type := by
  rw [linesReadAs, classified_firstLines, classified, classified, List.filterMap_filter,
    List.filter_filterMap]
  apply List.filterMap_congr
  intro message _
  cases Commit.read categories.contains message <;> rfl

theorem linesOf_classified (type : Text) :
    Groups.linesOf type (classified categories messages) =
      (classified categories (linesReadAs categories messages type)).map Commit.line := by
  rw [Groups.linesOf, classified_linesReadAs]

theorem sectionTypes_classified :
    Groups.sectionTypes .declaration categories (classified categories messages) =
      categories.keys.filter fun type =>
        !(classified categories (linesReadAs categories messages type)).isEmpty := by
  rw [Groups.sectionTypes]
  apply List.filter_congr
  intro type _
  rw [classified_linesReadAs, Bool.eq_iff_iff]
  simp [List.filter_eq_nil_iff]

/-! Two lists of messages. -/

variable {categories messages} {others : List Text}

/-- Under each type that the mapping names both lists have the same first lines in the same order. -/
def SameLines (mapping : Text) (messages others : List Text) : Prop :=
  ∀ categories, Categories.parse mapping = .ok categories → ∀ type ∈ categories.keys,
    linesReadAs categories messages type = linesReadAs categories others type

/-- The types of both lists come in the same order. -/
def SameTypesSeen (mapping : Text) (messages others : List Text) : Prop :=
  ∀ categories, Categories.parse mapping = .ok categories →
    typesSeen categories messages = typesSeen categories others

theorem ordered_classified_congr {order : SectionOrder}
    (htypes : Groups.sectionTypes order categories (classified categories messages) =
      Groups.sectionTypes order categories (classified categories others))
    (hlines : ∀ type ∈ categories.keys,
      linesReadAs categories messages type = linesReadAs categories others type) :
    Groups.ordered order categories (classified categories messages) =
      Groups.ordered order categories (classified categories others) := by
  apply Groups.ordered_congr (known_classified _ _) (known_classified _ _) htypes
  intro type htype
  rw [linesOf_classified, linesOf_classified, hlines type htype]

/-- Notes can only tell two lists of messages apart by the groups of their commits. -/
theorem generate_congr {mapping : Text} {order : SectionOrder}
    (h : ∀ categories, Categories.parse mapping = .ok categories →
      Groups.ordered order categories (classified categories messages) =
        Groups.ordered order categories (classified categories others))
    (version template : Text) (date : Date) :
    generate ⟨version, messages.map .string, mapping, template⟩ order date =
      generate ⟨version, others.map .string, mapping, template⟩ order date := by
  rw [generate_eq, generate_eq]
  cases hmapping : Categories.parse mapping with
  | error fault => simp only [ofDraft, hmapping]
  | ok categories =>
      cases htemplate : Template.read template with
      | error fault => simp only [ofDraft, hmapping, htemplate]
      | ok read =>
          rw [ofDraft_strings hmapping htemplate, ofDraft_strings hmapping htemplate]
          simp only [Except.map, notes, h categories hmapping]

/-- With the same lines under every type the notes are the same in the order of declaration, and, if
the types also come in the same order, in the order in which they are first seen. What a message says
after its first line, and a message that is not read as a commit, is never shown. -/
theorem generate_eq_of_sameLines {mapping : Text} {messages others : List Text}
    (h : SameLines mapping messages others) (version template : Text) (date : Date) :
    generate ⟨version, messages.map .string, mapping, template⟩ .declaration date =
        generate ⟨version, others.map .string, mapping, template⟩ .declaration date ∧
      (SameTypesSeen mapping messages others →
        generate ⟨version, messages.map .string, mapping, template⟩ .firstSeen date =
          generate ⟨version, others.map .string, mapping, template⟩ .firstSeen date) ∧
      ∀ categories, Categories.parse mapping = .ok categories → ∀ order,
        generate ⟨version, messages.map .string, mapping, template⟩ order date =
          generate ⟨version, (linesRead categories messages).map .string, mapping, template⟩
            order date := by
  refine ⟨?_, ?_, ?_⟩
  · apply generate_congr
    intro categories hmapping
    have hlines := h categories hmapping
    apply ordered_classified_congr _ hlines
    rw [sectionTypes_classified, sectionTypes_classified]
    apply List.filter_congr
    intro type htype
    rw [hlines type htype]
  · intro htypes
    apply generate_congr
    intro categories hmapping
    exact ordered_classified_congr (htypes categories hmapping) (h categories hmapping)
  · intro categories hmapping order
    apply generate_congr
    intro other hother
    cases hmapping.symm.trans hother
    rw [classified_linesRead]

theorem generate_eq_of_sameLines_moved :
    let mapping := "feat:Features,fix:Bug Fixes".text
    let messages :=
      ["fix: b\nfeat: no".text, "chore: x".text, "feat: a".text, "fix(api): c".text]
    let others := ["fix: b".text, "fix(api): c\r\n\r\nWhy".text, "Merge".text, "feat: a".text]
    SameLines mapping messages others ∧ SameTypesSeen mapping messages others ∧
      ∀ order date,
        generate ⟨"1.0".text, messages.map .string, mapping, Settings.defaultTemplate⟩ order date =
          generate ⟨"1.0".text, others.map .string, mapping, Settings.defaultTemplate⟩ order
            date := by
  intro mapping messages others
  have hmapping : Categories.parse mapping =
      .ok (Table.ofPairs [("feat".text, "Features".text), ("fix".text, "Bug Fixes".text)]) := rfl
  have hlines : SameLines mapping messages others := by
    intro categories hcategories
    cases hmapping.symm.trans hcategories
    decide +kernel
  have htypes : SameTypesSeen mapping messages others := by
    intro categories hcategories
    cases hmapping.symm.trans hcategories
    decide +kernel
  refine ⟨hlines, htypes, ?_⟩
  intro order date
  obtain ⟨hdeclared, hseen, _⟩ := generate_eq_of_sameLines hlines "1.0".text
    Settings.defaultTemplate date
  cases order with
  | firstSeen => exact hseen htypes
  | declaration => exact hdeclared

end Release

end ReleaseNotes
