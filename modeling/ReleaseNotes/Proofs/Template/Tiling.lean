import Mathlib.Data.List.Chain
import ReleaseNotes.Proofs.Template.Grammar

namespace ReleaseNotes.Template

/-!
The tokens of a text lie end to end from its start to its end. What stands between two of them is
never lost, and no marker hides in a text token, as no marker can begin inside another one.
-/

/-- Tokens that are not empty and follow each other without a gap from one position to another. -/
def Spans : Nat → List Token → Nat → Prop
  | start, [], stop => start = stop
  | start, token :: tokens, stop =>
      token.start = start ∧ token.start < token.stop ∧ Spans token.stop tokens stop

/-- Where a marker begins in a text. -/
def BeginsAt (marker : Marker) (position : Nat) (text : Text) : Prop :=
  marker.text <+: text.drop position

structure Tiles (text : Text) (tokens : List Token) : Prop where
  spans : Spans 0 tokens text.length
  empty : tokens = [] ↔ text = []
  apart : tokens.IsChain fun one next => one.kind ≠ none ∨ next.kind ≠ none
  covers : ∀ token ∈ tokens, ∀ marker, token.kind = some marker →
    (text.take token.stop).drop token.start = marker.text
  finds : ∀ marker position, BeginsAt marker position text →
    tokens.countP (fun token => token.kind = some marker ∧ token.start = position) = 1
  clear : ∀ token ∈ tokens, token.kind = none → ∀ marker position,
    BeginsAt marker position text →
      position + marker.text.length ≤ token.start ∨ token.stop ≤ position

/-! The tokens of a text read off together with the text, which begins at some position. -/

inductive Tiled : Nat → Text → List Token → Prop
  | nil {position : Nat} : Tiled position [] []
  | text {position : Nat} {stretch rest : Text} {tokens : List Token} :
      stretch ≠ [] → (∀ marker : Marker, Text.Absent marker.text stretch rest) →
      (∀ token ∈ tokens.head?, token.kind ≠ none) →
      Tiled (position + stretch.length) rest tokens →
      Tiled position (stretch ++ rest) (⟨none, position, position + stretch.length⟩ :: tokens)
  | marker {position : Nat} {rest : Text} {tokens : List Token} (marker : Marker) :
      Tiled (position + marker.text.length) rest tokens →
      Tiled position (marker.text ++ rest)
        (⟨some marker, position, position + marker.text.length⟩ :: tokens)

theorem Tiled.textToken {position : Nat} {stretch rest : Text} {tokens : List Token}
    (habsent : ∀ marker : Marker, Text.Absent marker.text stretch rest)
    (hhead : ∀ token ∈ tokens.head?, token.kind ≠ none)
    (h : Tiled (position + stretch.length) rest tokens) :
    Tiled position (stretch ++ rest) (textToken position stretch ++ tokens) := by
  by_cases hstretch : stretch = []
  · subst hstretch
    exact h
  · rw [Template.textToken, if_neg hstretch]
    exact .text hstretch habsent hhead h

theorem kind_of_mem_head?_markTokens {position : Nat} {marks : List (Marker × Text)} :
    ∀ token ∈ (markTokens position marks).head?, token.kind ≠ none := by
  cases marks with
  | nil => exact nofun
  | cons mark marks =>
      rintro token ⟨⟩
      exact Option.some_ne_none _

theorem tiled_of_cut {text head : Text} {marks : List (Marker × Text)}
    (h : Text.cut Marker.vocabulary text = ⟨head, marks⟩) (position : Nat) :
    Tiled position text
      (textToken position head ++ markTokens (position + head.length) marks) := by
  induction marks generalizing text head position with
  | nil =>
      obtain ⟨rfl, habsent⟩ := absent_of_cut_eq_nil h
      have htiled : Tiled position (text ++ []) (textToken position text ++ []) :=
        .textToken habsent nofun .nil
      rwa [List.append_nil] at htiled
  | cons mark marks ih =>
      obtain ⟨marker, stretch⟩ := mark
      obtain ⟨rest, rfl, hrest, habsent⟩ := exists_of_cut_eq_marker h
      exact Tiled.textToken habsent kind_of_mem_head?_markTokens (.marker marker (ih hrest _))

theorem tiled_tokens (text : Text) : Tiled 0 text (tokens text) := by
  have htiled := tiled_of_cut (rfl : Text.cut Marker.vocabulary text = _) 0
  rwa [Nat.zero_add] at htiled

/-! Where a marker can begin in a text whose opening is known. -/

theorem beginsAt_append {marker : Marker} {stretch rest : Text} {offset : Nat} :
    BeginsAt marker (stretch.length + offset) (stretch ++ rest) ↔ BeginsAt marker offset rest := by
  rw [BeginsAt, List.drop_length_add_append, BeginsAt]

theorem not_beginsAt_nil (marker : Marker) (position : Nat) : ¬ BeginsAt marker position [] := by
  rw [BeginsAt, List.drop_nil, List.prefix_nil]
  exact text_ne_nil marker

theorem exists_beginsAt_of_absent {marker : Marker} {stretch rest : Text} {position : Nat}
    (habsent : Text.Absent marker.text stretch rest)
    (h : BeginsAt marker position (stretch ++ rest)) :
    ∃ offset, position = stretch.length + offset ∧ BeginsAt marker offset rest := by
  have hposition : stretch.length ≤ position := by
    by_contra hinside
    exact Text.not_prefix_drop_of_absent habsent (Nat.not_le.mp hinside) h
  obtain ⟨offset, rfl⟩ := Nat.exists_eq_add_of_le hposition
  exact ⟨offset, rfl, beginsAt_append.mp h⟩

theorem beginsAt_marker_cases {marker other : Marker} {rest : Text} {position : Nat}
    (h : BeginsAt marker position (other.text ++ rest)) :
    (position = 0 ∧ marker = other) ∨
      ∃ offset, position = other.text.length + offset ∧ BeginsAt marker offset rest := by
  cases position with
  | zero =>
      obtain ⟨after, hafter⟩ := h
      have hopening := opening?_marker marker after
      rw [hafter, List.drop_zero, opening?_marker other rest] at hopening
      cases hopening
      exact .inl ⟨rfl, rfl⟩
  | succ position =>
      obtain ⟨w, word, hword⟩ := List.exists_cons_of_ne_nil (text_ne_nil other)
      have habsent : Text.Absent marker.text word rest := by
        have htail := isAbsent_tail marker other
        rw [hword] at htail
        exact Text.absent_of_isAbsent htail rest
      rw [hword] at h ⊢
      have hinside : BeginsAt marker position (word ++ rest) := h
      obtain ⟨offset, rfl, hoffset⟩ := exists_beginsAt_of_absent habsent hinside
      refine .inr ⟨offset, ?_, hoffset⟩
      rw [List.length_cons]
      omega

/-! What tokens that are read off a text have in common. -/

namespace Tiled

variable {position : Nat} {text : Text} {tokens : List Token}

theorem spans (h : Tiled position text tokens) : Spans position tokens (position + text.length) := by
  induction h with
  | nil => rfl
  | text hstretch _ _ _ ih =>
      have hlength := List.length_pos_iff.mpr hstretch
      rw [List.length_append, ← Nat.add_assoc]
      exact ⟨rfl, Nat.lt_add_of_pos_right hlength, ih⟩
  | marker marker _ ih =>
      have hlength := List.length_pos_iff.mpr (text_ne_nil marker)
      rw [List.length_append, ← Nat.add_assoc]
      exact ⟨rfl, Nat.lt_add_of_pos_right hlength, ih⟩

theorem eq_nil_iff (h : Tiled position text tokens) : tokens = [] ↔ text = [] := by
  cases h with
  | nil => simp
  | text hstretch => simp [hstretch]
  | marker marker => simp [text_ne_nil marker]

theorem apart (h : Tiled position text tokens) :
    tokens.IsChain fun one next => one.kind ≠ none ∨ next.kind ≠ none := by
  induction h with
  | nil => exact .nil
  | text _ _ hhead _ ih =>
      exact List.isChain_cons.mpr ⟨fun token htoken => .inr (hhead token htoken), ih⟩
  | marker _ _ ih => exact List.isChain_cons.mpr ⟨fun _ _ => .inl (Option.some_ne_none _), ih⟩

theorem position_le_start (h : Tiled position text tokens) {token : Token} (htoken : token ∈ tokens) :
    position ≤ token.start := by
  induction h with
  | nil => cases htoken
  | text _ _ _ _ ih =>
      cases htoken with
      | head => exact Nat.le_refl _
      | tail _ htoken => exact Nat.le_trans (Nat.le_add_right _ _) (ih htoken)
  | marker _ _ ih =>
      cases htoken with
      | head => exact Nat.le_refl _
      | tail _ htoken => exact Nat.le_trans (Nat.le_add_right _ _) (ih htoken)

theorem begins (h : Tiled position text tokens) {token : Token} (htoken : token ∈ tokens)
    {marker : Marker} (hkind : token.kind = some marker) :
    ∃ offset, token.start = position + offset ∧ BeginsAt marker offset text ∧
      token.stop = token.start + marker.text.length := by
  induction h with
  | nil => cases htoken
  | text _ _ _ _ ih =>
      cases htoken with
      | head => cases hkind
      | tail _ htoken =>
          obtain ⟨offset, hstart, hbegins, hstop⟩ := ih htoken
          exact ⟨_, hstart.trans (Nat.add_assoc _ _ _), beginsAt_append.mpr hbegins, hstop⟩
  | marker other _ ih =>
      cases htoken with
      | head =>
          cases hkind
          exact ⟨0, rfl, List.prefix_append _ _, rfl⟩
      | tail _ htoken =>
          obtain ⟨offset, hstart, hbegins, hstop⟩ := ih htoken
          exact ⟨_, hstart.trans (Nat.add_assoc _ _ _), beginsAt_append.mpr hbegins, hstop⟩

theorem finds (h : Tiled position text tokens) {marker : Marker} {offset : Nat}
    (hbegins : BeginsAt marker offset text) :
    tokens.countP (fun token => token.kind = some marker ∧ token.start = position + offset) = 1 := by
  induction h generalizing offset with
  | nil => exact absurd hbegins (not_beginsAt_nil marker offset)
  | text _ habsent _ _ ih =>
      obtain ⟨offset, rfl, hrest⟩ := exists_beginsAt_of_absent (habsent marker) hbegins
      rw [List.countP_cons_of_neg (by simp), ← Nat.add_assoc]
      exact ih hrest
  | @marker position rest tokens other hrest ih =>
      obtain ⟨rfl, rfl⟩ | ⟨offset, rfl, hlater⟩ := beginsAt_marker_cases hbegins
      · have hnone : tokens.countP
            (fun token => token.kind = some marker ∧ token.start = position + 0) = 0 := by
          apply List.countP_eq_zero.mpr
          intro token htoken
          have hlength := List.length_pos_iff.mpr (text_ne_nil marker)
          have hstart := hrest.position_le_start htoken
          simp only [decide_eq_true_eq, not_and]
          omega
        rw [List.countP_cons_of_pos (by simp), hnone]
      · have hlength := List.length_pos_iff.mpr (text_ne_nil other)
        rw [List.countP_cons_of_neg (by simp only [decide_eq_true_eq, not_and]; omega),
          ← Nat.add_assoc]
        exact ih hlater

theorem clear (h : Tiled position text tokens) {token : Token} (htoken : token ∈ tokens)
    (hkind : token.kind = none) {marker : Marker} {offset : Nat}
    (hbegins : BeginsAt marker offset text) :
    position + offset + marker.text.length ≤ token.start ∨ token.stop ≤ position + offset := by
  induction h generalizing offset with
  | nil => cases htoken
  | text _ habsent _ _ ih =>
      obtain ⟨offset, rfl, hrest⟩ := exists_beginsAt_of_absent (habsent marker) hbegins
      rw [← Nat.add_assoc]
      cases htoken with
      | head => exact .inr (Nat.le_add_right _ _)
      | tail _ htoken => exact ih htoken hrest
  | marker other hrest ih =>
      cases htoken with
      | head => cases hkind
      | tail _ htoken =>
          obtain ⟨rfl, rfl⟩ | ⟨offset, rfl, hlater⟩ := beginsAt_marker_cases hbegins
          · exact .inl (hrest.position_le_start htoken)
          · rw [← Nat.add_assoc]
            exact ih htoken hlater

end Tiled

theorem slice_of_beginsAt {marker : Marker} {start : Nat} {text : Text}
    (h : BeginsAt marker start text) :
    (text.take (start + marker.text.length)).drop start = marker.text := by
  rw [List.drop_take, Nat.add_sub_cancel_left]
  exact (List.prefix_iff_eq_take.mp h).symm

/-- The tokens of a text tile it, and there is one of them for every place where a marker begins. -/
theorem tokens_tile (text : Text) : Tiles text (tokens text) where
  spans := by
    have hspans := (tiled_tokens text).spans
    rwa [Nat.zero_add] at hspans
  empty := (tiled_tokens text).eq_nil_iff
  apart := (tiled_tokens text).apart
  covers := by
    intro token htoken marker hkind
    obtain ⟨offset, hstart, hbegins, hstop⟩ := (tiled_tokens text).begins htoken hkind
    rw [Nat.zero_add] at hstart
    rw [hstop, hstart]
    exact slice_of_beginsAt hbegins
  finds := by
    intro marker position hbegins
    have hfound := (tiled_tokens text).finds hbegins
    rwa [Nat.zero_add] at hfound
  clear := by
    intro token htoken hkind marker position hbegins
    have hclear := (tiled_tokens text).clear htoken hkind hbegins
    rwa [Nat.zero_add] at hclear

/-- Half a marker, two markers back to back, and what is left of a third. -/
example : tokens ("\x7b\x7b.SECTION\x7b\x7b.SECTION\x7d\x7d\x7b\x7b.COMMITS\x7d\x7d" ++
    ".COMMITS\x7d\x7d").text =
      [⟨none, 0, 10⟩, ⟨some .sections, 10, 22⟩, ⟨some .commits, 22, 34⟩, ⟨none, 34, 44⟩] := by
  decide +kernel

/-! The template that a text is read as, by the markers among its tokens. -/

def markers (tokens : List Token) : List Token :=
  tokens.filter fun token => token.kind.isSome

theorem markers_textToken_append (position : Nat) (stretch : Text) (tokens : List Token) :
    markers (textToken position stretch ++ tokens) = markers tokens := by
  rw [textToken]
  split <;> rfl

theorem markers_markTokens_cons (position : Nat) (marker : Marker) (stretch : Text)
    (marks : List (Marker × Text)) :
    markers (markTokens position ((marker, stretch) :: marks)) =
      ⟨some marker, position, position + marker.text.length⟩ ::
        markers (markTokens (position + marker.text.length + stretch.length) marks) := by
  rw [markTokens, List.cons_append, markers, List.filter_cons_of_pos rfl]
  exact congrArg _ (markers_textToken_append _ stretch _)

theorem eq_slice {text before stretch rest : Text} (h : text = before ++ (stretch ++ rest)) :
    stretch = (text.take (before.length + stretch.length)).drop before.length := by
  rw [h, ← List.append_assoc, ← List.length_append, List.take_left, List.drop_left]

theorem eq_append_next {text before stretch mark rest : Text}
    (h : text = before ++ (stretch ++ (mark ++ rest))) :
    text = before ++ stretch ++ mark ++ rest := by
  rw [h, List.append_assoc, List.append_assoc]

/-- Two section markers and two commit markers in a text, with the stretches of a template before,
between and behind them. -/
structure Bounds (template : Template) (text : Text)
    (opening closing lineOpening lineClosing : Token) : Prop where
  kinds : [opening, closing, lineOpening, lineClosing].map Token.kind =
    [some .sections, some .sections, some .commits, some .commits]
  head : template.head = text.take opening.start
  heading : template.heading = (text.take closing.start).drop opening.stop
  gap : template.gap = (text.take lineOpening.start).drop closing.stop
  line : template.line = (text.take lineClosing.start).drop lineOpening.stop
  tail : template.tail = text.drop lineClosing.stop
  spanStart : template.spanStart = opening.start
  spanStop : template.spanStop = lineClosing.stop

/-- A text that is read as a template has four markers, and they bound what the template holds. -/
theorem bounds_of_locate {text : Text} {template : Template} (h : locate text = .ok template) :
    ∃ opening closing lineOpening lineClosing,
      markers (tokens text) = [opening, closing, lineOpening, lineClosing] ∧
        template.Bounds text opening closing lineOpening lineClosing := by
  have hdivides := locate_eq_ok_iff_divides.mp h
  have hmarkers := congrArg markers (tokens.eq_1 text)
  rw [cut_of_divides hdivides, markers_textToken_append, markers_markTokens_cons,
    markers_markTokens_cons, markers_markTokens_cons, markers_markTokens_cons] at hmarkers
  -- From one stretch to the next, what has been passed and what is still to come.
  have hhead := hdivides.text_eq
  simp only [List.append_assoc] at hhead
  have hheading := hhead.trans (List.append_assoc _ _ _).symm
  have hgap := eq_append_next hheading
  have hline := eq_append_next hgap
  have htail := eq_append_next hline
  exact ⟨_, _, _, _, hmarkers, {
    kinds := rfl
    head := by rw [hhead, List.take_left]
    heading := by simpa only [List.length_append] using eq_slice hheading
    gap := by simpa only [List.length_append] using eq_slice hgap
    line := by simpa only [List.length_append] using eq_slice hline
    tail := by
      simp only [← List.length_append]
      rw [htail, List.drop_left]
    spanStart := rfl
    spanStop := by simp only [spanStop, span, List.length_append, Nat.add_assoc] }⟩

end ReleaseNotes.Template
