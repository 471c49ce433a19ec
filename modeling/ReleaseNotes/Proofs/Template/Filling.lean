import ReleaseNotes.Proofs.Text.Replacement
import ReleaseNotes.Template

namespace ReleaseNotes

theorem Date.mem_text {date : Date} {letter : Letter} (h : letter ∈ date.text) :
    letter.isDigit = true ∨ letter = '/' := by
  have hnumber : ∀ n, letter ∈ Text.ofNat n → letter.isDigit = true := by
    intro n hn
    obtain ⟨c, hc, rfl⟩ := List.mem_map.mp hn
    exact Nat.isDigit_of_mem_toDigits (by decide) (by decide) hc
  have hslash : letter ∈ "/".text → letter = '/' := List.mem_singleton.mp
  simp only [Date.text, List.mem_append] at h
  rcases h with (((h | h) | h) | h) | h
  · exact Or.inl (hnumber _ h)
  · exact Or.inr (hslash h)
  · exact Or.inl (hnumber _ h)
  · exact Or.inr (hslash h)
  · exact Or.inl (hnumber _ h)

theorem Date.not_mem_text {date : Date} {letter : Letter}
    (h : letter.isDigit = false ∧ letter ≠ '/') : letter ∉ date.text := by
  intro hmem
  cases mem_text hmem with
  | inl hdigit => exact Bool.false_ne_true (h.1.symm.trans hdigit)
  | inr hslash => exact h.2 hslash

theorem Date.text_ne_nil (date : Date) : date.text ≠ [] := by
  intro h
  have hslash : Letter.char '/' ∈ date.text := by
    simp only [Date.text, List.mem_append]
    exact Or.inl (Or.inr (List.mem_singleton_self _))
  rw [h] at hslash
  exact List.not_mem_nil hslash

namespace Template

/-!
A value is harmless if it may be put in for a field without making or breaking a marker, whatever
stands around it: no marker can begin inside it, and none can run on into it.
-/

structure Harmless (value : Text) : Prop where
  opening : ∃ first rest, value = first :: rest ∧ ∀ marker : Marker, first ∉ marker.text
  no_brace : Letter.char '\x7b' ∉ value

theorem harmless_date (date : Date) : Harmless date.text where
  opening := by
    obtain ⟨first, rest, hdate⟩ := List.exists_cons_of_ne_nil date.text_ne_nil
    refine ⟨first, rest, hdate, ?_⟩
    intro marker hmarker
    have hletters : ∀ letter ∈ marker.text, letter.isDigit = false ∧ letter ≠ '/' := by
      cases marker <;> decide
    exact Date.not_mem_text (hletters first hmarker) (hdate ▸ List.mem_cons_self)
  no_brace := Date.not_mem_text (by decide)

theorem vocabulary_ignores (field : Field) {value : Text} (h : Harmless value) :
    Marker.vocabulary.Ignores field.text value where
  marks_ne_nil := by decide
  word_ne_nil := by cases field <;> decide
  word_absent := by cases field <;> decide
  absent_word := by cases field <;> decide
  absent_value := by
    intro mark hmark
    have hbrace : ∃ rest, mark.2 = Letter.char '\x7b' :: rest := by
      simp only [Marker.vocabulary, List.mem_cons, List.not_mem_nil, or_false] at hmark
      rcases hmark with rfl | rfl <;> exact ⟨_, rfl⟩
    obtain ⟨rest, hrest⟩ := hbrace
    rw [hrest]
    exact Text.isAbsent_of_not_mem h.no_brace
  value_opening := by
    obtain ⟨first, rest, hvalue, hfirst⟩ := h.opening
    refine ⟨first, rest, hvalue, ?_⟩
    intro mark hmark
    simp only [Marker.vocabulary, List.mem_cons, List.not_mem_nil, or_false] at hmark
    rcases hmark with rfl | rfl
    · exact hfirst .sections
    · exact hfirst .commits

theorem replaceAll_of_no_brace {field : Field} {value text : Text}
    (h : Letter.char '\x7b' ∉ text) : Text.replaceAll field.text value text = text := by
  cases field with
  | date => exact Text.replaceAll_of_not_mem h
  | version => exact Text.replaceAll_of_not_mem h

theorem fillFields_of_no_brace {text : Text} (h : Letter.char '\x7b' ∉ text) (version : Text)
    (date : Date) : fillFields version date text = text := by
  rw [fillFields, replaceAll_of_no_brace h, replaceAll_of_no_brace h]

/-- The markers of a template with its fields filled in are those of the template. -/
theorem cut_fillFields {version : Text} (h : Harmless version) (date : Date) (text : Text) :
    Text.cut Marker.vocabulary (fillFields version date text) =
      (Text.cut Marker.vocabulary text).mapStretches (fillFields version date) := by
  rw [fillFields, Text.cut_replaceAll (vocabulary_ignores .version h),
    Text.cut_replaceAll (vocabulary_ignores .date (harmless_date date))]
  simp only [Text.Cut.mapStretches, List.map_map]
  rfl

theorem locate_eq_ok_iff {text : Text} {template : Template} :
    locate text = .ok template ↔
      Text.cut Marker.vocabulary text =
        ⟨template.head, [(.sections, template.heading), (.sections, template.gap),
          (.commits, template.line), (.commits, template.tail)]⟩ := by
  constructor
  · intro h
    simp only [locate] at h
    split at h
    · cases h
    · split at h
      · cases h
      · split at h
        · rename_i hmarks
          cases h
          rw [← hmarks]
        · cases h
  · intro h
    rw [locate, h]
    rfl

theorem locate_of_read {text : Text} {template : Template} (h : read text = .ok template) :
    locate text = .ok template := by
  rw [read] at h
  split at h
  · exact h
  · cases h

theorem read_of_locate {text : Text} {template : Template} (hfields : missingFields text = [])
    (h : locate text = .ok template) : read text = .ok template := by
  rw [read, hfields]
  exact h

/-! What is rendered when every type has a name. -/

def body (heading line : Text) (groups : Groups) (names : Categories) : Text :=
  groups.entries.flatMap fun (type, entries) =>
    Text.replaceFirst titlePlace ((names.get? type).getD []) heading ++ Text.newline ++
      (entries.flatMap fun entry => Text.replaceFirst commitPlace entry line ++ Text.newline) ++
      Text.newline

theorem sectionBlocks_eq_ok {heading line : Text} {names : Categories}
    {entries : List (Text × List Text)} (h : ∀ entry ∈ entries, names.contains entry.1 = true) :
    sectionBlocks heading line names entries =
      .ok (entries.flatMap fun (type, lines) =>
        sectionBlock heading line ((names.get? type).getD []) lines) := by
  induction entries with
  | nil => rfl
  | cons entry entries ih =>
      obtain ⟨type, lines⟩ := entry
      obtain ⟨hentry, hentries⟩ := List.forall_mem_cons.mp h
      obtain ⟨name, hname⟩ := Option.isSome_iff_exists.mp hentry
      rw [sectionBlocks, hname, ih hentries]
      simp [Except.map, hname]

theorem render_eq_ok {template : Template} {groups : Groups} {names : Categories}
    (h : ∀ type ∈ groups.keys, names.contains type = true) (version : Text) (date : Date) :
    template.render version date groups names =
      .ok (fillFields version date template.head ++
        Text.strip (body (fillFields version date template.heading)
          (fillFields version date template.line) groups names) ++
        fillFields version date template.tail) := by
  have hentries : ∀ entry ∈ groups.entries, names.contains entry.1 = true :=
    fun entry hentry => h entry.1 (List.mem_map_of_mem hentry)
  rw [render, sections, sectionBlocks_eq_ok hentries]
  rfl

end Template

end ReleaseNotes
