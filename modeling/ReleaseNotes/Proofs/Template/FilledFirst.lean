import ReleaseNotes.Proofs.Template.Grammar

namespace ReleaseNotes.Template

/-!
The other order of steps: first the fields are filled in everywhere, then the markers are looked
for in what came out. Both orders give the same notes.
-/

/-- The text between the first two occurrences of a marker. -/
def between? (marker : Marker) (text : Text) : Option Text := do
  let (_, opened) ← Text.findFirst? marker.text text
  let (fragment, _) ← Text.findFirst? marker.text opened
  return fragment

def renderFilled? (text version : Text) (date : Date) (groups : Groups) (names : Categories) :
    Option Text := do
  let filled :=
    Text.replaceAll Field.version.text version (Text.replaceAll Field.date.text date.text text)
  let (head, _) ← Text.findFirst? Marker.sections.text filled
  let (_, tail) ← Text.findLast? Marker.commits.text filled
  let heading ← between? .sections filled
  let line ← between? .commits filled
  return head ++ Text.strip (body heading line groups names) ++ tail

/-! What a search finds in a text whose marks are known. -/

theorem findFirst?_marker {head rest : Text} {marker : Marker}
    (h : Text.Absent marker.text head (marker.text ++ rest)) :
    Text.findFirst? marker.text (head ++ (marker.text ++ rest)) = some (head, rest) := by
  have hmarker : marker.text ≠ [] := by cases marker <;> decide
  rw [Text.findFirst?_append h, Text.findFirst?_word hmarker, Option.map_some]
  exact congrArg (fun before => some (before, rest)) (List.append_nil head)

theorem findFirst?_commits_after_sections {head rest : Text}
    (h : Text.Absent Marker.commits.text head (Marker.sections.text ++ rest)) :
    Text.findFirst? Marker.commits.text (head ++ (Marker.sections.text ++ rest)) =
      (Text.findFirst? Marker.commits.text rest).map fun (before, after) =>
        (head ++ (Marker.sections.text ++ before), after) := by
  have hsections : Text.Absent Marker.commits.text Marker.sections.text rest :=
    Text.absent_of_isAbsent (by decide) rest
  rw [Text.findFirst?_append h, Text.findFirst?_append hsections, Option.map_map]
  rfl

theorem findLast?_commits {head tail : Text} (h : Text.Absent Marker.commits.text tail []) :
    Text.findLast? Marker.commits.text (head ++ (Marker.commits.text ++ tail)) =
      some (head, tail) := by
  have hlast : Text.findLast? Marker.commits.text (Marker.commits.text ++ tail) = some ([], tail) :=
    Text.findLast?_word (by decide) h
  rw [Text.findLast?_append hlast, List.append_nil]

/-- The searches from both ends meet the stretches of the template that the cut found. -/
theorem searches_of_cut {text : Text} {template : Template}
    (h : Text.cut Marker.vocabulary text =
      ⟨template.head, [(.sections, template.heading), (.sections, template.gap),
        (.commits, template.line), (.commits, template.tail)]⟩) :
    (∃ opened, Text.findFirst? Marker.sections.text text = some (template.head, opened)) ∧
      (∃ before, Text.findLast? Marker.commits.text text = some (before, template.tail)) ∧
      between? .sections text = some template.heading ∧
      between? .commits text = some template.line := by
  obtain ⟨opened, rfl, hopened, hhead⟩ := exists_of_cut_eq_marker h
  obtain ⟨closed, rfl, hclosed, hheading⟩ := exists_of_cut_eq_marker hopened
  obtain ⟨lineOpened, rfl, hlineOpened, hgap⟩ := exists_of_cut_eq_marker hclosed
  obtain ⟨lineClosed, rfl, hlineClosed, hline⟩ := exists_of_cut_eq_marker hlineOpened
  obtain ⟨rfl, htail⟩ := Text.absent_of_cut_eq_nil hlineClosed
  refine ⟨⟨_, findFirst?_marker (hhead _)⟩, ?_, ?_, ?_⟩
  · have hlast : Text.findLast? Marker.commits.text
        (template.line ++ (Marker.commits.text ++ template.tail)) =
          some (template.line, template.tail) :=
      findLast?_commits (htail (.commits, Marker.commits.text) (by decide))
    have hafterGap := Text.findLast?_append (a := template.gap)
      (Text.findLast?_append (a := Marker.commits.text) hlast)
    have hafterHeading := Text.findLast?_append (a := template.heading)
      (Text.findLast?_append (a := Marker.sections.text) hafterGap)
    have hafterHead := Text.findLast?_append (a := template.head)
      (Text.findLast?_append (a := Marker.sections.text) hafterHeading)
    exact ⟨_, hafterHead⟩
  · rw [between?, findFirst?_marker (hhead _)]
    show (Text.findFirst? _ _).bind _ = _
    rw [findFirst?_marker (hheading _)]
    rfl
  · rw [between?, findFirst?_commits_after_sections (hhead _),
      findFirst?_commits_after_sections (hheading _), findFirst?_marker (hgap _)]
    show (Text.findFirst? _ _).bind _ = _
    rw [findFirst?_marker (hline _)]
    rfl

/-- Reading the markers first and filling in piece by piece gives what filling in first and reading
the markers afterwards gives. -/
theorem render_eq_renderFilled {text version rest : Text} {first : Letter} {template : Template}
    {groups : Groups} {names : Categories} (date : Date)
    (hread : read text = .ok template)
    (hnames : ∀ type ∈ groups.keys, names.contains type = true)
    (hversion : version = first :: rest) (hfirst : ∀ marker : Marker, first ∉ marker.text)
    (hbrace : Letter.char '\x7b' ∉ version) :
    ∃ notes, template.render version date groups names = .ok notes ∧
      renderFilled? text version date groups names = some notes := by
  have hharmless : Harmless version := ⟨⟨first, rest, hversion, hfirst⟩, hbrace⟩
  have hfilled := cut_fillFields hharmless date text
  rw [locate_eq_ok_iff.mp (locate_of_read hread)] at hfilled
  let fill := fillFields version date
  let filled : Template := ⟨fill template.head, fill template.heading, fill template.gap,
    fill template.line, fill template.tail⟩
  have hcut : Text.cut Marker.vocabulary (fill text) =
      ⟨filled.head, [(.sections, filled.heading), (.sections, filled.gap),
        (.commits, filled.line), (.commits, filled.tail)]⟩ := hfilled
  obtain ⟨⟨opened, hhead⟩, ⟨before, htail⟩, hheading, hline⟩ := searches_of_cut hcut
  refine ⟨_, render_eq_ok hnames version date, ?_⟩
  rw [renderFilled?, ← fillFields, hhead, htail, hheading, hline]
  rfl

/-- The braces around the version look like a marker before it is filled in. -/
theorem render_eq_renderFilled_near_marker :
    let text := ("\x7b\x7b.\x7b\x7bversionName\x7d\x7d\x7d\x7d \x7b\x7bdate\x7d\x7d\n" ++
      "\x7b\x7b.SECTION\x7d\x7d# $title\x7b\x7b.SECTION\x7d\x7d" ++
      "\x7b\x7b.COMMITS\x7d\x7d* $commit\x7b\x7b.COMMITS\x7d\x7d").text
    let template : Template :=
      ⟨"\x7b\x7b.\x7b\x7bversionName\x7d\x7d\x7d\x7d \x7b\x7bdate\x7d\x7d\n".text,
        "# $title".text, [], "* $commit".text, []⟩
    let groups : Groups := Table.ofPairs [("feat".text, ["Add".text])]
    let names : Categories := Table.ofPairs [("feat".text, "Features".text)]
    let date : Date := ⟨2024, 3, 5, by decide, by decide, by decide⟩
    let notes := "\x7b\x7b.1.0\x7d\x7d 3/5/2024\n# Features\n* Add".text
    read text = .ok template ∧ (∀ type ∈ groups.keys, names.contains type = true) ∧
      (∀ marker : Marker, Letter.char '1' ∉ marker.text) ∧ Letter.char '\x7b' ∉ "1.0".text ∧
      template.render "1.0".text date groups names = .ok notes ∧
      renderFilled? text "1.0".text date groups names = some notes := by
  intro text template groups names date notes
  have hread : read text = .ok template := rfl
  have hnames : ∀ type ∈ groups.keys, names.contains type = true := by decide
  have hfirst : ∀ marker : Marker, Letter.char '1' ∉ marker.text := by
    intro marker
    cases marker <;> decide
  have hbrace : Letter.char '\x7b' ∉ "1.0".text := by decide
  have hversion : "1.0".text = Letter.char '1' :: ".0".text := rfl
  obtain ⟨rendered, hrendered, hfilled⟩ :=
    render_eq_renderFilled date hread hnames hversion hfirst hbrace
  have hnotes : renderFilled? text "1.0".text date groups names = some notes := by decide +kernel
  have heq : rendered = notes := Option.some.inj (hfilled.symm.trans hnotes)
  exact ⟨hread, hnames, hfirst, hbrace, heq ▸ hrendered, hnotes⟩

end ReleaseNotes.Template
