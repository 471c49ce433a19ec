import ReleaseNotes.Proofs.Release.Notes
import ReleaseNotes.Proofs.Text.Stretches

namespace ReleaseNotes

/-!
From one day to another only the date itself changes. A date is digits and slashes, and no field, no
place and no blank has any of these; so whatever is put in or trimmed around the dates of a text is
put in or trimmed in the stretches between them, which are the same on every day.
-/

theorem Date.apart {word : Text} (hword : word ≠ [])
    (h : ∀ c ∈ word, c.isDigit = false ∧ c ≠ '/') (date : Date) : Text.Apart word date.text where
  word_ne_nil := hword
  value_ne_nil := date.text_ne_nil
  not_mem := by
    intro c hdate hmem
    obtain ⟨hdigit, hslash⟩ := h c hmem
    cases Date.mem_text hdate with
    | inl hd => exact Bool.false_ne_true (hdigit.symm.trans hd)
    | inr hs => exact hslash hs

theorem Letter.code_of_isDigit {letter : Letter} (h : letter.isDigit = true) :
    48 ≤ letter.code ∧ letter.code ≤ 57 := by
  cases letter with
  | surrogate half => cases h
  | char c =>
      have hrange : (decide (48 ≤ c.val) && decide (c.val ≤ 57)) = true := h
      simp only [Bool.and_eq_true, decide_eq_true_eq] at hrange
      exact hrange

theorem Date.solid (date : Date) : Text.Solid date.text where
  ne_nil := date.text_ne_nil
  not_blank := by
    intro c hmem
    cases Date.mem_text hmem with
    | inr hslash => exact hslash ▸ rfl
    | inl hdigit =>
        have hcode := Letter.code_of_isDigit hdigit
        rw [Bool.eq_false_iff]
        intro hblank
        unfold Text.isBlank at hblank
        simp only [Bool.or_eq_true, Bool.and_eq_true, decide_eq_true_eq, beq_iff_eq] at hblank
        omega

/-- A text with dates in it: around them it is the same on every day. -/
def IsDated (text : Date → Text) : Prop :=
  ∃ cut : Text.Cut Unit, ∀ date, text date = cut.fillWith date.text

namespace IsDated

variable {text other : Date → Text}

theorem const (text : Text) : IsDated fun _ => text :=
  ⟨⟨text, []⟩, fun date => (Text.Cut.fillWith_nil date.text text).symm⟩

theorem append (h : IsDated text) (hother : IsDated other) :
    IsDated fun date => text date ++ other date := by
  obtain ⟨cut, hcut⟩ := h
  obtain ⟨later, hlater⟩ := hother
  obtain ⟨both, hboth⟩ := cut.exists_append later
  refine ⟨both, ?_⟩
  intro date
  rw [hboth, ← hcut, ← hlater]

theorem flatMap {texts : β → Date → Text} (items : List β) (h : ∀ item, IsDated (texts item)) :
    IsDated fun date => items.flatMap fun item => texts item date := by
  induction items with
  | nil => exact const []
  | cons item items ih => exact (h item).append ih

theorem replaceAll {word : Text} (hword : ∀ date : Date, Text.Apart word date.text) (put : Text)
    (h : IsDated text) : IsDated fun date => Text.replaceAll word put (text date) := by
  obtain ⟨cut, hcut⟩ := h
  refine ⟨cut.mapStretches (Text.replaceAll word put), ?_⟩
  intro date
  rw [← Text.Cut.replaceAll_fillWith (hword date), ← hcut]

theorem replaceFirst {word : Text} (hword : ∀ date : Date, Text.Apart word date.text) (put : Text)
    (h : IsDated text) : IsDated fun date => Text.replaceFirst word put (text date) := by
  obtain ⟨cut, hcut⟩ := h
  obtain ⟨replaced, hreplaced⟩ := cut.exists_replaceFirst word put
  refine ⟨replaced, ?_⟩
  intro date
  rw [← hreplaced _ (hword date), ← hcut]

theorem strip (h : IsDated text) : IsDated fun date => Text.strip (text date) := by
  obtain ⟨cut, hcut⟩ := h
  obtain ⟨trimmed, htrimmed⟩ := cut.exists_strip
  refine ⟨trimmed, ?_⟩
  intro date
  rw [← htrimmed _ date.solid, ← hcut]

/-- A template has dates where its field for the date stood, before anything else is put in. -/
theorem fillFields (version text : Text) :
    IsDated fun date => Template.fillFields version date text := by
  have hdated : IsDated fun date => Text.replaceAll Template.Field.date.text date.text text :=
    ⟨Text.cut [((), Template.Field.date.text)] text, fun _ => rfl⟩
  exact hdated.replaceAll (Date.apart (by decide) (by decide)) version

theorem body {heading line : Date → Text} (hheading : IsDated heading) (hline : IsDated line)
    (groups : Groups) (names : Categories) :
    IsDated fun date => Template.body (heading date) (line date) groups names := by
  apply flatMap
  rintro ⟨type, entries⟩
  have htitle : IsDated fun date => Text.replaceFirst Template.titlePlace
      ((names.get? type).getD []) (heading date) :=
    hheading.replaceFirst (Date.apart (by decide) (by decide)) _
  have hentry : ∀ entry, IsDated fun date =>
      Text.replaceFirst Template.commitPlace entry (line date) ++ Text.newline :=
    fun entry => (hline.replaceFirst (Date.apart (by decide) (by decide)) entry).append
      (const Text.newline)
  exact ((htitle.append (const Text.newline)).append (flatMap entries hentry)).append
    (const Text.newline)

theorem notes (release : Release) (order : SectionOrder) : IsDated (release.notes order) :=
  ((fillFields release.version release.template.head).append
    (body (fillFields release.version release.template.heading)
      (fillFields release.version release.template.line)
      (Groups.ordered order release.categories release.commits) release.categories).strip).append
    (fillFields release.version release.template.tail)

end IsDated

namespace Release

/-- If there are notes on one day there are notes on every day, and they are the same stretches of
text with the date of the day between any two of them. -/
theorem generate_eq_joined {draft : Draft} {order : SectionOrder} {day : Date} {written : Text}
    (h : generate draft order day = .ok written) :
    ∃ chunks : List Text, chunks ≠ [] ∧
      ∀ date : Date, generate draft order date = .ok (Text.joined date.text chunks) := by
  rw [generate_eq] at h
  cases hdraft : ofDraft draft with
  | error error =>
      rw [hdraft] at h
      cases h
  | ok release =>
      obtain ⟨cut, hcut⟩ := IsDated.notes release order
      refine ⟨cut.stretches, List.cons_ne_nil _ _, ?_⟩
      intro date
      rw [generate_eq, hdraft, ← Text.Cut.fillWith_eq_joined, ← hcut]
      rfl

/-- Dates in every part of the template, and a version that looks like the place of the title. -/
theorem generate_eq_joined_four_dates :
    let template := ("\x7b\x7bversionName\x7d\x7d \x7b\x7bdate\x7d\x7d\n" ++
      "\x7b\x7b.SECTION\x7d\x7d \x7b\x7bdate\x7d\x7d $title\x7b\x7b.SECTION\x7d\x7d" ++
      "\x7b\x7b.COMMITS\x7d\x7d\x7b\x7bdate\x7d\x7d: $commit \x7b\x7b.COMMITS\x7d\x7d\n" ++
      "\x7b\x7bdate\x7d\x7d").text
    let draft : Draft :=
      ⟨"$title".text, [.string "fix: b".text], "fix:Bug Fixes".text, template⟩
    let day : Date := ⟨2024, 3, 5, by decide, by decide, by decide⟩
    let written :=
      "$title 3/5/2024\n3/5/2024 Bug Fixes\n3/5/2024: B\n3/5/2024".text
    generate draft .firstSeen day = .ok written ∧
      ∃ chunks : List Text, chunks ≠ [] ∧
        ∀ date : Date, generate draft .firstSeen date = .ok (Text.joined date.text chunks) := by
  intro template draft day written
  let categories : Categories := Table.ofPairs [("fix".text, "Bug Fixes".text)]
  let read : Template :=
    ⟨"\x7b\x7bversionName\x7d\x7d \x7b\x7bdate\x7d\x7d\n".text,
      " \x7b\x7bdate\x7d\x7d $title".text, [],
      "\x7b\x7bdate\x7d\x7d: $commit ".text, "\n\x7b\x7bdate\x7d\x7d".text⟩
  have hmapping : Categories.parse "fix:Bug Fixes".text = .ok categories := rfl
  have htemplate : Template.read template = .ok read :=
    Template.read_of_locate (by decide +kernel)
      (Template.locate_eq_ok_iff.mpr (by decide +kernel))
  have hdraft : ofDraft draft =
      .ok ⟨"$title".text, categories, read, classified categories ["fix: b".text]⟩ :=
    ofDraft_strings hmapping htemplate _ ["fix: b".text]
  have hnotes : notes ⟨"$title".text, categories, read, classified categories ["fix: b".text]⟩
      .firstSeen day = written := by decide +kernel
  have hday : generate draft .firstSeen day = .ok written := by
    rw [generate_eq, hdraft, ← hnotes]
    rfl
  exact ⟨hday, generate_eq_joined hday⟩

end Release

end ReleaseNotes
