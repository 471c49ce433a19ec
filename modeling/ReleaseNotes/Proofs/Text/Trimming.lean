import Mathlib.Data.List.DropRight
import ReleaseNotes.Text.Basic

namespace ReleaseNotes.Text

/-! The two ends of a text are trimmed apart from each other. -/

def stripEnd (text : Text) : Text :=
  dropEndWhile isBlank text

theorem dropEndWhile_append_of_all {p : Letter → Bool} {a b : Text} (h : ∀ c ∈ b, p c = true) :
    dropEndWhile p (a ++ b) = dropEndWhile p a := by
  have hreverse : ∀ c ∈ b.reverse, p c = true := fun c hc => h c (List.mem_reverse.mp hc)
  rw [dropEndWhile, List.reverse_append, List.dropWhile_append_of_pos hreverse]
  rfl

theorem dropEndWhile_append {p : Letter → Bool} {a b : Text} (h : dropEndWhile p b ≠ []) :
    dropEndWhile p (a ++ b) = a ++ dropEndWhile p b := by
  have hkept : ¬ (b.reverse.dropWhile p).isEmpty = true := by
    intro hempty
    apply h
    rw [dropEndWhile, List.isEmpty_iff.mp hempty]
    rfl
  rw [dropEndWhile, List.reverse_append, List.dropWhile_append, if_neg hkept,
    List.reverse_append, List.reverse_reverse]
  rfl

theorem dropEndWhile_cons_ne_nil {p : Letter → Bool} {c : Letter} (h : p c = false) (text : Text) :
    dropEndWhile p (c :: text) ≠ [] := by
  intro hnil
  have hall : ∀ d ∈ c :: text, p d = true := List.rdropWhile_eq_nil_iff.mp hnil
  exact Bool.false_ne_true (h.symm.trans (hall c List.mem_cons_self))

theorem strip_cons {c : Letter} (h : isBlank c = false) (text : Text) :
    strip (c :: text) = stripEnd (c :: text) := by
  rw [strip, List.dropWhile_cons_of_neg (Bool.not_eq_true _ ▸ h)]
  rfl

/-- Trimming takes nothing but blanks. -/
theorem mem_strip_of_not_blank {c : Letter} {text : Text} (hblank : isBlank c = false)
    (h : c ∈ text) : c ∈ strip text := by
  have hkept : ∀ letters : Text, c ∈ letters → c ∈ letters.dropWhile isBlank := by
    intro letters hmem
    rw [← List.takeWhile_append_dropWhile (p := isBlank) (l := letters), List.mem_append] at hmem
    cases hmem with
    | inl hdropped =>
        have hdropped : isBlank c = true := List.all_eq_true.mp List.all_takeWhile c hdropped
        exact absurd (hblank.symm.trans hdropped) Bool.false_ne_true
    | inr hmem => exact hmem
  rw [strip, dropEndWhile, List.mem_reverse]
  exact hkept _ (List.mem_reverse.mpr (hkept text h))

theorem mem_of_mem_strip {c : Letter} {text : Text} (h : c ∈ strip text) : c ∈ text := by
  rw [strip, dropEndWhile, List.mem_reverse] at h
  have hend := (List.dropWhile_suffix isBlank).subset h
  exact (List.dropWhile_suffix isBlank).subset (List.mem_reverse.mp hend)

/-- A trimmed text does not begin with a blank. -/
theorem isBlank_of_strip_cons {c : Letter} {text rest : Text} (h : strip text = c :: rest) :
    isBlank c = false := by
  have hopens : c :: rest <+: text.dropWhile isBlank := by
    rw [← h]
    exact List.rdropWhile_prefix isBlank _
  obtain ⟨after, hafter⟩ := hopens
  have hfirst := List.head?_dropWhile_not isBlank text
  rw [← hafter] at hfirst
  exact hfirst

theorem strip_ne_nil {text : Text} (h : isAllBlank text = false) : strip text ≠ [] := by
  obtain ⟨c, hc, hblank⟩ := List.all_eq_false.mp h
  exact List.ne_nil_of_mem (mem_strip_of_not_blank (Bool.not_eq_true _ ▸ hblank) hc)

theorem mem_of_mem_stripEnd {c : Letter} {text : Text} (h : c ∈ stripEnd text) : c ∈ text := by
  have hopens : stripEnd text <+: text := List.rdropWhile_prefix isBlank text
  exact hopens.subset h

/-! What trimming leaves of a text, told by the blanks around it. -/

/-- No blank stands at either end. -/
structure IsTight (text : Text) : Prop where
  head : ∀ c, text.head? = some c → isBlank c = false
  last : ∀ c, text.getLast? = some c → isBlank c = false

/-- A text with nothing but blanks on either side of its core. -/
def IsPadded (core text : Text) : Prop :=
  ∃ before after : Text, (∀ c ∈ before, isBlank c = true) ∧ (∀ c ∈ after, isBlank c = true) ∧
    text = before ++ core ++ after

theorem isPadded_self (core : Text) : IsPadded core core :=
  ⟨[], [], by simp, by simp, by simp⟩

theorem isTight_strip (text : Text) : IsTight (strip text) where
  head := by
    intro c hc
    obtain ⟨rest, hrest⟩ := List.head?_eq_some_iff.mp hc
    exact isBlank_of_strip_cons hrest
  last := by
    intro c hc
    have hne : strip text ≠ [] := List.ne_nil_of_mem (List.mem_of_getLast? hc)
    have hlast := List.rdropWhile_last_not isBlank (text.dropWhile isBlank) hne
    rw [List.getLast?_eq_some_getLast hne, Option.some.injEq] at hc
    subst hc
    exact Bool.not_eq_true _ ▸ hlast

theorem isPadded_strip (text : Text) : IsPadded (strip text) text := by
  refine ⟨text.takeWhile isBlank, (text.dropWhile isBlank).rtakeWhile isBlank, ?_, ?_, ?_⟩
  · exact List.all_eq_true.mp List.all_takeWhile
  · exact fun c hc => List.mem_rtakeWhile_imp hc
  · have hend : strip text ++ (text.dropWhile isBlank).rtakeWhile isBlank =
        text.dropWhile isBlank := List.rdropWhile_append_rtakeWhile
    rw [List.append_assoc, hend, List.takeWhile_append_dropWhile]

theorem strip_of_isTight {core : Text} (h : IsTight core) : strip core = core := by
  have hfront : core.dropWhile isBlank = core := by
    cases core with
    | nil => rfl
    | cons c rest => exact List.dropWhile_cons_of_neg (by simp [h.head c rfl])
  rw [strip, hfront]
  apply List.rdropWhile_eq_self_iff.mpr
  intro hne
  rw [h.last _ (List.getLast?_eq_some_getLast hne)]
  exact Bool.false_ne_true

theorem strip_of_isPadded {core text : Text} (h : IsPadded core text) :
    strip text = strip core := by
  obtain ⟨before, after, hbefore, hafter, rfl⟩ := h
  rw [strip, strip, List.append_assoc, List.dropWhile_append_of_pos hbefore]
  by_cases hblank : ∀ c ∈ core, isBlank c = true
  · have hall : ∀ c ∈ core ++ after, isBlank c = true :=
      List.forall_mem_append.mpr ⟨hblank, hafter⟩
    rw [List.dropWhile_eq_nil_iff.mpr hall, List.dropWhile_eq_nil_iff.mpr hblank]
  · have hkept : ¬ (core.dropWhile isBlank).isEmpty = true := by
      rw [List.isEmpty_iff, List.dropWhile_eq_nil_iff]
      exact hblank
    rw [List.dropWhile_append, if_neg hkept, dropEndWhile_append_of_all hafter]

/-- Trimming a text leaves the one part of it that begins and ends without a blank and has nothing
but blanks around it. -/
theorem strip_eq_iff {text core : Text} : strip text = core ↔ IsTight core ∧ IsPadded core text := by
  constructor
  · rintro rfl
    exact ⟨isTight_strip text, isPadded_strip text⟩
  · rintro ⟨htight, hpadded⟩
    rw [strip_of_isPadded hpadded, strip_of_isTight htight]

theorem mem_of_isPadded {core text : Text} {c : Letter} (h : IsPadded core text)
    (hblank : isBlank c = false) : c ∈ text ↔ c ∈ core := by
  obtain ⟨before, after, hbefore, hafter, rfl⟩ := h
  have hnotBefore : c ∉ before := fun hmem => Bool.false_ne_true (hblank ▸ hbefore c hmem)
  have hnotAfter : c ∉ after := fun hmem => Bool.false_ne_true (hblank ▸ hafter c hmem)
  simp [hnotBefore, hnotAfter]

end ReleaseNotes.Text
