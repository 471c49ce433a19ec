import Mathlib.Data.List.ModifyLast
import ReleaseNotes.Proofs.Commit.Grammar
import ReleaseNotes.Proofs.Release.Notes
import ReleaseNotes.Proofs.Text.Pieces
import ReleaseNotes.Proofs.Text.Trimming
import ReleaseNotes.Settings.Basic

namespace ReleaseNotes

/-! The notes of a release, line by line, as the default template writes them. -/

namespace Release

def titleLine (version : Text) (date : Date) : Text :=
  "## ".text ++ version ++ " (".text ++ date.text ++ ")".text

def headingLine (categories : Categories) (type : Text) : Text :=
  "### ".text ++ (categories.get? type).getD []

def entryLine (entry : Text) : Text :=
  "- ".text ++ entry

def sectionLines (categories : Categories) (commits : List Commit) (type : Text) : List Text :=
  headingLine categories type :: (Groups.linesOf type commits).map entryLine

/-- One section for each type that has a commit. -/
def sections (order : SectionOrder) (categories : Categories) (commits : List Commit) :
    List (List Text) :=
  (Groups.sectionTypes order categories commits).map (sectionLines categories commits)

def bodyLines (order : SectionOrder) (categories : Categories) (commits : List Commit) :
    List Text :=
  Text.spaced (sections order categories commits)

/-! What the default template becomes. -/

theorem fillFields_default_head (version : Text) (date : Date) :
    Template.fillFields version date
        "## \x7b\x7bversionName\x7d\x7d (\x7b\x7bdate\x7d\x7d)\n\n".text =
      titleLine version date ++ "\n\n".text := by
  have hdate : Text.replaceAll Template.Field.date.text date.text
      ("## \x7b\x7bversionName\x7d\x7d (".text ++
        (Template.Field.date.text ++ ")\n\n".text)) =
      "## ".text ++ (Template.Field.version.text ++ (" (".text ++ date.text ++ ")\n\n".text)) := by
    rw [Text.replaceAll_append (Text.absent_of_isAbsent (by decide) _),
      Text.replaceAll_word (by decide), Template.replaceAll_of_no_brace (by decide)]
    simp [String.text, Text.ofChars, Template.Field.text]
  have hbrace : Letter.char '\x7b' ∉ " (".text ++ date.text ++ ")\n\n".text := by
    simp only [List.mem_append, not_or]
    exact ⟨⟨by decide, (Template.harmless_date date).no_brace⟩, by decide⟩
  have hversion : Text.replaceAll Template.Field.version.text version
      ("## ".text ++ (Template.Field.version.text ++ (" (".text ++ date.text ++ ")\n\n".text))) =
      "## ".text ++ (version ++ (" (".text ++ date.text ++ ")\n\n".text)) := by
    rw [Text.replaceAll_append (Text.absent_of_isAbsent (by decide) _),
      Text.replaceAll_word (by decide), Template.replaceAll_of_no_brace hbrace]
  have hopened : "## \x7b\x7bversionName\x7d\x7d (\x7b\x7bdate\x7d\x7d)\n\n".text =
      "## \x7b\x7bversionName\x7d\x7d (".text ++
        (Template.Field.date.text ++ ")\n\n".text) := rfl
  have hclosed : ")\n\n".text = ")".text ++ "\n\n".text := rfl
  rw [Template.fillFields, hopened, hdate, hversion, titleLine, hclosed]
  simp only [List.append_assoc]

theorem body_default (groups : Groups) (names : Categories) :
    Template.body "### $title".text "- $commit".text groups names =
      groups.entries.flatMap fun (type, entries) =>
        (headingLine names type :: entries.map entryLine).flatMap (· ++ Text.newline) ++
          Text.newline := by
  have hheading : ∀ name, Text.replaceFirst Template.titlePlace name "### $title".text =
      "### ".text ++ name := fun name => congrArg ("### ".text ++ ·) (List.append_nil name)
  have hline : ∀ entry, Text.replaceFirst Template.commitPlace entry "- $commit".text =
      entryLine entry := fun entry => congrArg ("- ".text ++ ·) (List.append_nil entry)
  rw [Template.body]
  simp only [hheading, hline, List.flatMap_cons, List.flatMap_map, headingLine]

/-- A line of the notes begins with a letter that trimming leaves in place. -/
def Opens (line : Text) : Prop :=
  ∃ first rest, line = first :: rest ∧ Text.isBlank first = false

theorem opens_of_mem_sectionLines {categories : Categories} {commits : List Commit}
    {type line : Text} (h : line ∈ sectionLines categories commits type) : Opens line := by
  cases List.mem_cons.mp h with
  | inl hheading => exact ⟨'#', _, hheading, by decide⟩
  | inr hentry =>
      obtain ⟨entry, _, hentry⟩ := List.mem_map.mp hentry
      exact ⟨'-', _, hentry.symm, by decide⟩

theorem exists_opening {blocks : List (List Text)} (hblocks : blocks ≠ [])
    (hlines : ∀ block ∈ blocks, block ≠ [] ∧ ∀ line ∈ block, Opens line) :
    ∃ first rest, (Text.spaced blocks).flatMap (· ++ Text.newline) = first :: rest ∧
      Text.isBlank first = false := by
  obtain ⟨block, blocks, rfl⟩ := List.exists_cons_of_ne_nil hblocks
  obtain ⟨hblock, hopens⟩ := hlines block List.mem_cons_self
  obtain ⟨line, lines, rfl⟩ := List.exists_cons_of_ne_nil hblock
  obtain ⟨first, rest, rfl, hfirst⟩ := hopens line List.mem_cons_self
  obtain ⟨after, hafter⟩ := Text.spaced_cons ((first :: rest) :: lines) blocks
  rw [← hafter, List.cons_append, List.flatMap_cons]
  exact ⟨first, _, rfl, hfirst⟩

theorem exists_last {blocks : List (List Text)} (hblocks : blocks ≠ [])
    (hlines : ∀ block ∈ blocks, block ≠ [] ∧ ∀ line ∈ block, Opens line) :
    ∃ front last, Text.spaced blocks = front ++ [last] ∧ Opens last := by
  obtain ⟨blocks, block, rfl⟩ : ∃ earlier block, blocks = earlier ++ [block] :=
    ⟨_, _, (List.dropLast_concat_getLast hblocks).symm⟩
  obtain ⟨hblock, hopens⟩ := hlines block List.mem_concat_self
  obtain ⟨lines, last, rfl⟩ : ∃ lines last, block = lines ++ [last] :=
    ⟨_, _, (List.dropLast_concat_getLast hblock).symm⟩
  obtain ⟨front, hfront⟩ := Text.spaced_concat blocks (lines ++ [last])
  refine ⟨front ++ lines, last, ?_, hopens last List.mem_concat_self⟩
  rw [← hfront, List.append_assoc]

/-- Trimming what the blocks are written to takes blanks off the last line only. -/
theorem strip_blocks {blocks : List (List Text)} (hblocks : blocks ≠ [])
    (hlines : ∀ block ∈ blocks, block ≠ [] ∧ ∀ line ∈ block, Opens line) :
    Text.strip (blocks.flatMap fun block => block.flatMap (· ++ Text.newline) ++ Text.newline) ++
        Text.newline =
      ((Text.spaced blocks).modifyLast Text.stripEnd).flatMap (· ++ Text.newline) := by
  obtain ⟨first, rest, hopening, hfirst⟩ := exists_opening hblocks hlines
  obtain ⟨front, last, hspaced, letter, word, hlast, hletter⟩ := exists_last hblocks hlines
  have hblanks : ∀ c ∈ Text.newline ++ Text.newline, Text.isBlank c = true := by decide
  have hkept : Text.dropEndWhile Text.isBlank last ≠ [] :=
    hlast ▸ Text.dropEndWhile_cons_ne_nil hletter word
  have hend : Text.stripEnd ((front ++ [last]).flatMap (· ++ Text.newline) ++ Text.newline) =
      front.flatMap (· ++ Text.newline) ++ Text.stripEnd last := by
    rw [List.flatMap_append, List.flatMap_singleton, Text.stripEnd, Text.stripEnd,
      List.append_assoc, List.append_assoc, ← List.append_assoc _ last,
      Text.dropEndWhile_append_of_all hblanks, Text.dropEndWhile_append hkept]
  rw [Text.flatMap_spaced hblocks, hopening, List.cons_append, Text.strip_cons hfirst,
    ← List.cons_append, ← hopening, hspaced, hend, List.modifyLast_concat, List.flatMap_append,
    List.flatMap_singleton, List.append_assoc]

/-- The notes with these blocks of lines, before any line end is looked for. -/
def notesText (version : Text) (date : Date) (blocks : List (List Text)) : Text :=
  titleLine version date ++ "\n\n".text ++
    Text.strip (blocks.flatMap fun block => block.flatMap (· ++ Text.newline) ++ Text.newline) ++
    Text.newline

theorem notesText_nil (version : Text) (date : Date) :
    notesText version date [] = titleLine version date ++ "\n\n\n".text := by
  simp only [notesText, List.append_assoc]
  rfl

theorem notesText_eq_joined (version : Text) (date : Date) {blocks : List (List Text)}
    (hblocks : blocks ≠ []) (hlines : ∀ block ∈ blocks, block ≠ [] ∧ ∀ line ∈ block, Opens line) :
    notesText version date blocks =
      Text.joined Text.newline (titleLine version date :: [] ::
        (Text.spaced blocks).modifyLast Text.stripEnd ++ [[]]) := by
  rw [Text.joined_concat, List.append_nil, List.flatMap_cons, List.flatMap_cons, notesText,
    List.append_assoc _ _ Text.newline, strip_blocks hblocks hlines]
  simp only [List.append_assoc]
  rfl

theorem generate_default {mapping : Text} {categories : Categories}
    (hmapping : Categories.parse mapping = .ok categories) (version : Text) (messages : List Text)
    (order : SectionOrder) (date : Date) :
    generate ⟨version, messages.map .string, mapping, Settings.defaultTemplate⟩ order date =
      .ok (notesText version date (sections order categories (classified categories messages))) := by
  have htemplate : Template.read Settings.defaultTemplate =
      .ok ⟨"## \x7b\x7bversionName\x7d\x7d (\x7b\x7bdate\x7d\x7d)\n\n".text,
        "### $title".text, "\n".text, "- $commit".text, "\n".text⟩ := rfl
  have hsections : (Groups.ordered order categories (classified categories messages)).entries =
      (Groups.sectionTypes order categories (classified categories messages)).map fun type =>
        (type, Groups.linesOf type (classified categories messages)) := by
    rw [Groups.entries_ordered, known_classified]
  have hheading : Template.fillFields version date "### $title".text = "### $title".text :=
    Template.fillFields_of_no_brace (by decide) version date
  have hline : Template.fillFields version date "- $commit".text = "- $commit".text :=
    Template.fillFields_of_no_brace (by decide) version date
  have htail : Template.fillFields version date "\n".text = "\n".text :=
    Template.fillFields_of_no_brace (by decide) version date
  rw [generate_eq, ofDraft_strings hmapping htemplate]
  simp only [Except.map, notes, fillFields_default_head, hheading, hline, htail, body_default,
    hsections]
  rw [notesText, sections, List.flatMap_map, List.flatMap_map]
  rfl

theorem section_opens {order : SectionOrder} {categories : Categories} {commits : List Commit} :
    ∀ block ∈ sections order categories commits, block ≠ [] ∧ ∀ line ∈ block, Opens line := by
  intro block hblock
  obtain ⟨type, _, rfl⟩ := List.mem_map.mp hblock
  exact ⟨List.cons_ne_nil _ _, fun _ => opens_of_mem_sectionLines⟩

theorem sections_ne_nil {categories : Categories} {messages : List Text}
    (h : classified categories messages ≠ []) (order : SectionOrder) :
    sections order categories (classified categories messages) ≠ [] := by
  obtain ⟨commit, commits, hcommits⟩ := List.exists_cons_of_ne_nil h
  have hcommit : commit ∈ classified categories messages := hcommits ▸ List.mem_cons_self
  have htype : commit.type ∈ Groups.sectionTypes order categories (classified categories messages) :=
    (Groups.mem_sectionTypes _ _ fun _ => contains_of_mem_classified).mpr ⟨commit, hcommit, rfl⟩
  exact List.ne_nil_of_mem (List.mem_map_of_mem htype)

theorem sections_nil (order : SectionOrder) (categories : Categories) :
    sections order categories [] = [] := by
  cases order with
  | firstSeen => rfl
  | declaration =>
      rw [sections, Groups.sectionTypes]
      simp

/-! No line of the notes is broken by a line feed of its own. -/

theorem newline_not_mem_titleLine {version : Text} (h : Letter.char '\n' ∉ version) (date : Date) :
    Letter.char '\n' ∉ titleLine version date := by
  have hdate : Letter.char '\n' ∉ date.text := by
    intro hmem
    cases Date.mem_text hmem with
    | inl hdigit => exact absurd hdigit (by decide)
    | inr hslash => exact absurd hslash (by decide)
  rw [titleLine]
  simp only [List.mem_append, not_or]
  exact ⟨⟨⟨⟨by decide, h⟩, by decide⟩, hdate⟩, by decide⟩

theorem newline_not_mem_headingLine {categories : Categories}
    (h : ∀ entry ∈ categories.entries, Letter.char '\n' ∉ entry.2) (type : Text) :
    Letter.char '\n' ∉ headingLine categories type := by
  have hname : Letter.char '\n' ∉ (categories.get? type).getD [] := by
    cases hget : categories.get? type with
    | none => exact List.not_mem_nil
    | some name => exact h (type, name) (Table.mem_entries_of_get? hget)
  rw [headingLine, List.mem_append, not_or]
  exact ⟨by decide, hname⟩

theorem newline_not_mem_bodyLines {categories : Categories}
    (h : ∀ entry ∈ categories.entries, Letter.char '\n' ∉ entry.2) (messages : List Text)
    (order : SectionOrder) {line : Text}
    (hline : line ∈ bodyLines order categories (classified categories messages)) :
    Letter.char '\n' ∉ line := by
  cases Text.mem_spaced hline with
  | inl hempty => exact hempty ▸ List.not_mem_nil
  | inr hblock =>
      obtain ⟨block, hblock, hline⟩ := hblock
      obtain ⟨type, _, rfl⟩ := List.mem_map.mp hblock
      cases List.mem_cons.mp hline with
      | inl hheading => exact hheading ▸ newline_not_mem_headingLine h type
      | inr hentry =>
          obtain ⟨entry, hlines, rfl⟩ := List.mem_map.mp hentry
          obtain ⟨commit, hcommit, rfl⟩ := List.mem_map.mp hlines
          obtain ⟨_, _, hread⟩ := exists_of_mem_classified (List.mem_of_mem_filter hcommit)
          rw [entryLine, List.mem_append, not_or]
          exact ⟨by decide, Commit.newline_not_mem_line hread⟩

theorem newline_not_mem_trimmed {lines : List Text} (h : ∀ line ∈ lines, Letter.char '\n' ∉ line) :
    ∀ line ∈ lines.modifyLast Text.stripEnd, Letter.char '\n' ∉ line := by
  cases List.eq_nil_or_concat lines with
  | inl hnil => exact hnil ▸ h
  | inr hconcat =>
      obtain ⟨front, last, rfl⟩ := hconcat
      rw [List.concat_eq_append] at h ⊢
      rw [List.modifyLast_concat]
      intro line hline
      cases List.mem_append.mp hline with
      | inl hfront => exact h line (List.mem_append_left [last] hfront)
      | inr hlast =>
          rw [List.mem_singleton.mp hlast]
          exact fun hmem => h last List.mem_concat_self (Text.mem_of_mem_stripEnd hmem)

/-- Every commit that is read stands in the section of its type and in no other, in the order in
which the commits came; nothing else is written. Only the last line loses the blanks at its end. -/
theorem generate_lines {version mapping : Text} {categories : Categories}
    (hversion : Letter.char '\n' ∉ version) (hmapping : Categories.parse mapping = .ok categories)
    (hnames : ∀ entry ∈ categories.entries, Letter.char '\n' ∉ entry.2)
    (messages : List Text) (order : SectionOrder) (date : Date) :
    ((Groups.sectionTypes order categories (classified categories messages)).flatMap fun type =>
        (classified categories messages).filter fun commit => commit.type = type).Perm
      (classified categories messages) ∧
    ∃ notes,
      generate ⟨version, messages.map .string, mapping, Settings.defaultTemplate⟩ order date =
        .ok notes ∧
      (classified categories messages ≠ [] →
        notes.splitOn (.char '\n') =
          titleLine version date :: [] ::
            (bodyLines order categories (classified categories messages)).modifyLast Text.stripEnd ++
              [[]]) ∧
      (classified categories messages = [] →
        notes = titleLine version date ++ "\n\n\n".text) := by
  have hknown : ∀ commit ∈ classified categories messages,
      categories.contains commit.type = true := fun _ => contains_of_mem_classified
  refine ⟨?_, _, generate_default hmapping version messages order date, ?_, ?_⟩
  · apply Groups.flatMap_filter_perm
    · exact Groups.nodup_sectionTypes hknown order
    · intro commit hcommit
      exact (Groups.mem_sectionTypes _ _ hknown).mpr ⟨commit, hcommit, rfl⟩
  · intro hsome
    let body := (bodyLines order categories (classified categories messages)).modifyLast
      Text.stripEnd
    have hbody : ∀ line ∈ body, Letter.char '\n' ∉ line :=
      newline_not_mem_trimmed fun _ => newline_not_mem_bodyLines hnames messages order
    have hlines : ∀ line ∈ titleLine version date :: [] :: body ++ [[]],
        Letter.char '\n' ∉ line := by
      simp only [List.cons_append, List.forall_mem_cons, List.forall_mem_append]
      exact ⟨newline_not_mem_titleLine hversion date, List.not_mem_nil, hbody,
        List.not_mem_nil, by simp⟩
    rw [notesText_eq_joined version date (sections_ne_nil hsome order) section_opens]
    exact List.splitOn_intercalate _ hlines (List.concat_ne_nil _ _)
  · intro hnone
    rw [hnone, sections_nil, notesText_nil]

theorem generate_lines_two_sections :
    let categories : Categories :=
      Table.ofPairs [("feat".text, "Features".text), ("fix".text, "Bug Fixes".text)]
    let messages :=
      ["fix: first".text, "chore: none".text, "fix: again\nfeat: no".text, "feat(api): last  ".text]
    Letter.char '\n' ∉ "1.0".text ∧
      Categories.parse "feat:Features, fix:Bug Fixes".text = .ok categories ∧
      (∀ entry ∈ categories.entries, Letter.char '\n' ∉ entry.2) ∧
      ∃ notes,
        generate ⟨"1.0".text, messages.map .string, "feat:Features, fix:Bug Fixes".text,
          Settings.defaultTemplate⟩ .firstSeen ⟨2024, 3, 5, by decide, by decide, by decide⟩ =
            .ok notes ∧
        notes.splitOn (.char '\n') =
          ["## 1.0 (3/5/2024)".text, [], "### Bug Fixes".text, "- First".text, "- Again".text, [],
            "### Features".text, "- **api:** Last".text, []] := by
  intro categories messages
  have hversion : Letter.char '\n' ∉ "1.0".text := by decide
  have hmapping : Categories.parse "feat:Features, fix:Bug Fixes".text = .ok categories := rfl
  have hnames : ∀ entry ∈ categories.entries, Letter.char '\n' ∉ entry.2 := by decide
  obtain ⟨_, notes, hnotes, hlines, _⟩ := generate_lines hversion hmapping hnames messages
    .firstSeen ⟨2024, 3, 5, by decide, by decide, by decide⟩
  refine ⟨hversion, hmapping, hnames, notes, hnotes, ?_⟩
  rw [hlines (by decide +kernel)]
  decide +kernel

end Release

end ReleaseNotes
