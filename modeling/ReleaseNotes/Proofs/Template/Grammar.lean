import ReleaseNotes.Proofs.Template.Filling

namespace ReleaseNotes.Template

/-!
A cut at the markers and the text that it comes from. What stands between the markers holds none, and
a text that is put together from such pieces is cut back into them.
-/

/-- No marker stands in a text. -/
def IsPlain (text : Text) : Prop :=
  ∀ marker : Marker, ¬ marker.text <:+: text

theorem text_ne_nil (marker : Marker) : marker.text ≠ [] := by
  cases marker <;> decide

/-- Neither marker begins inside the other, nor again inside itself. -/
theorem isAbsent_tail (marker other : Marker) :
    Text.isAbsent marker.text other.text.tail = true := by
  cases marker <;> cases other <;> decide

/-! From a cut to its pieces. -/

theorem exists_of_cut_eq_marker {text head stretch : Text} {marker : Marker}
    {marks : List (Marker × Text)}
    (h : Text.cut Marker.vocabulary text = ⟨head, (marker, stretch) :: marks⟩) :
    ∃ rest, text = head ++ (marker.text ++ rest) ∧
      Text.cut Marker.vocabulary rest = ⟨stretch, marks⟩ ∧
      ∀ other : Marker, Text.Absent other.text head (marker.text ++ rest) := by
  obtain ⟨word, rest, hmark, htext, hrest, habsent⟩ := Text.exists_of_cut_eq_cons (by decide) h
  have hword : word = marker.text := by
    simp only [Marker.vocabulary, List.mem_cons, Prod.mk.injEq, List.not_mem_nil, or_false]
      at hmark
    rcases hmark with ⟨rfl, rfl⟩ | ⟨rfl, rfl⟩ <;> rfl
  subst hword
  refine ⟨rest, htext, hrest, ?_⟩
  intro other
  apply habsent (other, other.text)
  cases other <;> decide

theorem absent_of_cut_eq_nil {text head : Text}
    (h : Text.cut Marker.vocabulary text = ⟨head, []⟩) :
    text = head ∧ ∀ marker : Marker, Text.Absent marker.text text [] := by
  obtain ⟨htext, habsent⟩ := Text.absent_of_cut_eq_nil h
  refine ⟨htext, fun marker => habsent (marker, marker.text) ?_⟩
  cases marker <;> decide

/-! From the pieces to the cut. -/

theorem opening?_marker (marker : Marker) (rest : Text) :
    Marker.vocabulary.opening? (marker.text ++ rest) = some (marker, marker.text) := by
  cases marker <;> rfl

theorem cut_marker (marker : Marker) (rest : Text) :
    Text.cut Marker.vocabulary (marker.text ++ rest) =
      (Text.cut Marker.vocabulary rest).mark marker :=
  Text.cut_word (text_ne_nil marker) (opening?_marker marker rest)

theorem cut_append_of_absent {head rest : Text}
    (h : ∀ marker : Marker, Text.Absent marker.text head rest) :
    Text.cut Marker.vocabulary (head ++ rest) =
      (Text.cut Marker.vocabulary rest).after head := by
  apply Text.cut_append
  intro mark hmark
  simp only [Marker.vocabulary, List.mem_cons, List.not_mem_nil, or_false] at hmark
  rcases hmark with rfl | rfl
  · exact h .sections
  · exact h .commits

theorem cut_plain {text : Text} (h : IsPlain text) :
    Text.cut Marker.vocabulary text = ⟨text, []⟩ := by
  have hcut := cut_append_of_absent fun marker => Text.absent_of_not_infix (h marker)
  simpa [Text.cut, Text.Cut.after] using hcut

theorem cut_plain_marker {head : Text} (h : IsPlain head) (marker : Marker) (rest : Text) :
    Text.cut Marker.vocabulary (head ++ (marker.text ++ rest)) =
      ((Text.cut Marker.vocabulary rest).mark marker).after head := by
  have habsent : ∀ other : Marker, Text.Absent other.text head (marker.text ++ rest) :=
    fun other => Text.absent_before_mark (h other) (isAbsent_tail marker other) rest
  rw [cut_append_of_absent habsent, cut_marker]

/-! Counting. -/

theorem occurrences_marker (marker other : Marker) (rest : Text) :
    Text.occurrences marker.text (other.text ++ rest) =
      (if other = marker then 1 else 0) + Text.occurrences marker.text rest := by
  split
  · rename_i h
    subst h
    obtain ⟨w, word, hword⟩ := List.exists_cons_of_ne_nil (text_ne_nil other)
    have habsent := isAbsent_tail other other
    rw [hword] at habsent ⊢
    exact Text.occurrences_word habsent rest
  · rename_i h
    have habsent : Text.isAbsent marker.text other.text = true := by
      revert h
      cases marker <;> cases other <;> decide
    rw [Text.occurrences_append (Text.absent_of_isAbsent habsent rest), Nat.zero_add]

theorem count_cons (marker other : Marker) (stretch : Text) (marks : List (Marker × Text)) :
    count marker ((other, stretch) :: marks) =
      (if other = marker then 1 else 0) + count marker marks := by
  by_cases h : other = marker
  · simp [count, h, Nat.add_comm]
  · simp [count, h]

/-- A cut has a mark for every place where its marker begins. -/
theorem count_of_cut (marker : Marker) {text head : Text} {marks : List (Marker × Text)}
    (h : Text.cut Marker.vocabulary text = ⟨head, marks⟩) :
    count marker marks = Text.occurrences marker.text text := by
  induction marks generalizing text head with
  | nil =>
      obtain ⟨_, habsent⟩ := absent_of_cut_eq_nil h
      exact (Text.occurrences_eq_zero (habsent marker)).symm
  | cons mark marks ih =>
      obtain ⟨other, stretch⟩ := mark
      obtain ⟨rest, rfl, hrest, habsent⟩ := exists_of_cut_eq_marker h
      rw [count_cons, ih hrest, Text.occurrences_append (habsent marker), occurrences_marker]

/-!
The texts that can be read as templates are those in which a pair of section markers is followed by a
pair of commit markers, and there is no other marker.
-/

/-- A text falls into the stretches of a template and the four markers between them. -/
structure Divides (template : Template) (text : Text) : Prop where
  text_eq : text = template.head ++ Marker.sections.text ++ template.heading ++
    Marker.sections.text ++ template.gap ++ Marker.commits.text ++ template.line ++
    Marker.commits.text ++ template.tail
  head : IsPlain template.head
  heading : IsPlain template.heading
  gap : IsPlain template.gap
  line : IsPlain template.line
  tail : IsPlain template.tail

theorem cut_of_divides {text : Text} {template : Template} (h : template.Divides text) :
    Text.cut Marker.vocabulary text =
      ⟨template.head, [(.sections, template.heading), (.sections, template.gap),
        (.commits, template.line), (.commits, template.tail)]⟩ := by
  have htext : text = template.head ++ (Marker.sections.text ++ (template.heading ++
      (Marker.sections.text ++ (template.gap ++ (Marker.commits.text ++ (template.line ++
        (Marker.commits.text ++ template.tail))))))) := by
    rw [h.text_eq]
    simp only [List.append_assoc]
  rw [htext, cut_plain_marker h.head, cut_plain_marker h.heading, cut_plain_marker h.gap,
    cut_plain_marker h.line, cut_plain h.tail]
  simp only [Text.Cut.mark, Text.Cut.after, List.append_nil]

theorem divides_of_cut {text : Text} {template : Template}
    (h : Text.cut Marker.vocabulary text =
      ⟨template.head, [(.sections, template.heading), (.sections, template.gap),
        (.commits, template.line), (.commits, template.tail)]⟩) : template.Divides text := by
  obtain ⟨opened, rfl, hopened, hhead⟩ := exists_of_cut_eq_marker h
  obtain ⟨closed, rfl, hclosed, hheading⟩ := exists_of_cut_eq_marker hopened
  obtain ⟨lineOpened, rfl, hlineOpened, hgap⟩ := exists_of_cut_eq_marker hclosed
  obtain ⟨lineClosed, rfl, hlineClosed, hline⟩ := exists_of_cut_eq_marker hlineOpened
  obtain ⟨rfl, htail⟩ := absent_of_cut_eq_nil hlineClosed
  have hplain : ∀ {stretch following : Text},
      (∀ marker : Marker, Text.Absent marker.text stretch following) → IsPlain stretch :=
    fun habsent marker => Text.not_infix_of_absent (text_ne_nil marker) (habsent marker)
  exact {
    text_eq := by simp only [List.append_assoc]
    head := hplain hhead
    heading := hplain hheading
    gap := hplain hgap
    line := hplain hline
    tail := hplain htail }

theorem locate_eq_ok_iff_divides {text : Text} {template : Template} :
    locate text = .ok template ↔ template.Divides text :=
  locate_eq_ok_iff.trans ⟨divides_of_cut, cut_of_divides⟩

/-- What is wrong with a text that is no template: the counts come before the order. -/
def fault (text : Text) : Error :=
  if Text.occurrences Marker.sections.text text ≠ 2 then
    .count .sections (Text.occurrences Marker.sections.text text)
  else if Text.occurrences Marker.commits.text text ≠ 2 then
    .count .commits (Text.occurrences Marker.commits.text text)
  else .unclosed

theorem locate_cases (text : Text) :
    (∃ template, locate text = .ok template) ∨ locate text = .error (fault text) := by
  have hcount : ∀ marker : Marker, count marker (Text.cut Marker.vocabulary text).marks =
      Text.occurrences marker.text text := fun marker => count_of_cut marker rfl
  unfold fault
  rw [← hcount, ← hcount, locate]
  split
  · exact Or.inr rfl
  · split
    · exact Or.inr rfl
    · split
      · exact Or.inl ⟨_, rfl⟩
      · exact Or.inr rfl

/-- Where the markers of a template begin and end. -/
theorem Divides.span_eq {text : Text} {template : Template} (h : template.Divides text) :
    text.take template.spanStart = template.head ∧ text.drop template.spanStop = template.tail ∧
      template.spanStop + template.tail.length = text.length := by
  have htext : text = template.head ++ template.span ++ template.tail := by
    rw [h.text_eq, span]
    simp only [List.append_assoc]
  have hstop : template.spanStop = (template.head ++ template.span).length := by
    rw [spanStop, List.length_append]
  refine ⟨?_, ?_, ?_⟩
  · rw [htext, spanStart, List.append_assoc, List.take_left]
  · rw [htext, hstop, List.drop_left]
  · rw [hstop, htext]
    exact List.length_append.symm

/-- A text is read as a template exactly if it falls into the stretches of one, which it can do in
only one way; then the markers are where the template says. Any other text is refused, for the count
of its section markers, or else for that of its commit markers, or else for their order. -/
theorem locate_iff_divides (text : Text) :
    (∀ template, locate text = .ok template ↔ template.Divides text) ∧
      (∀ template, template.Divides text →
        (∀ other : Template, other.Divides text → other = template) ∧
          template.spanStart = template.head.length ∧
          template.spanStop = text.length - template.tail.length ∧
          text.take template.spanStart = template.head ∧
          text.drop template.spanStop = template.tail) ∧
      ∀ error, locate text = .error error ↔
        (¬ ∃ template : Template, template.Divides text) ∧ error = fault text := by
  refine ⟨fun template => locate_eq_ok_iff_divides, fun template h => ?_, fun error => ?_⟩
  · obtain ⟨hhead, htail, hlength⟩ := h.span_eq
    refine ⟨fun other hother => ?_, rfl, by omega, hhead, htail⟩
    have hlocated := locate_eq_ok_iff_divides.mpr h
    rw [locate_eq_ok_iff_divides.mpr hother] at hlocated
    exact Except.ok.inj hlocated
  · cases locate_cases text with
    | inl hread =>
        obtain ⟨template, hread⟩ := hread
        have hdivides := locate_eq_ok_iff_divides.mp hread
        constructor
        · intro herror
          rw [hread] at herror
          cases herror
        · rintro ⟨hnone, _⟩
          exact absurd ⟨template, hdivides⟩ hnone
    | inr hfault =>
        constructor
        · intro herror
          refine ⟨?_, Except.error.inj (herror.symm.trans hfault)⟩
          rintro ⟨template, hdivides⟩
          rw [locate_eq_ok_iff_divides.mpr hdivides] at hfault
          cases hfault
        · rintro ⟨_, rfl⟩
          exact hfault

/-- Every stretch of this text looks as if a marker began in it or ended in it. -/
theorem locate_iff_divides_half_markers :
    let text := ("\x7b\x7b.SECTION\x7b\x7b.SECTION\x7d\x7d\x7b\x7b\x7b.SECTION\x7d\x7d" ++
      "\x7b\x7b.COMMITS\x7b\x7b.COMMITS\x7d\x7d\x7d\x7d\x7b\x7b.COMMITS\x7d\x7d.COMMITS\x7d\x7d").text
    let template : Template :=
      ⟨"\x7b\x7b.SECTION".text, "\x7b".text, "\x7b\x7b.COMMITS".text, "\x7d\x7d".text,
        ".COMMITS\x7d\x7d".text⟩
    locate text = .ok template ∧ template.Divides text ∧
      template.spanStart = template.head.length ∧
      template.spanStop = text.length - template.tail.length ∧
      ∀ other : Template, other.Divides text → other = template := by
  intro text template
  have hlocated : locate text = .ok template := rfl
  have hdivides : template.Divides text := ((locate_iff_divides text).1 template).mp hlocated
  obtain ⟨hunique, hstart, hstop, _, _⟩ := (locate_iff_divides text).2.1 template hdivides
  exact ⟨hlocated, hdivides, hstart, hstop, hunique⟩

end ReleaseNotes.Template
