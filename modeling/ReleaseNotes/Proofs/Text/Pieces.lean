import ReleaseNotes.Text.Basic

namespace ReleaseNotes.Text

/-! Cutting a text at a letter and joining pieces with it undo each other. -/

theorem not_mem_of_mem_splitOn {separator : Letter} {text piece : Text}
    (h : piece ∈ text.splitOn separator) : separator ∉ piece := by
  induction text generalizing piece with
  | nil =>
      rw [List.splitOn_nil, List.mem_singleton] at h
      exact h ▸ List.not_mem_nil
  | cons c text ih =>
      rw [List.splitOn_cons_eq_if_modifyHead] at h
      split at h
      · cases List.mem_cons.mp h with
        | inl hnil => exact hnil ▸ List.not_mem_nil
        | inr hpiece => exact ih hpiece
      · rename_i hne
        cases hpieces : text.splitOn separator with
        | nil => exact absurd hpieces (List.splitOn_ne_nil separator text)
        | cons first pieces =>
            rw [hpieces, List.modifyHead_cons] at h
            rw [hpieces] at ih
            cases List.mem_cons.mp h with
            | inl hfirst =>
                rw [hfirst, List.mem_cons, not_or]
                exact ⟨fun heq => hne (beq_iff_eq.mpr heq.symm), ih List.mem_cons_self⟩
            | inr hpiece => exact ih (List.mem_cons_of_mem first hpiece)

/-- Cutting finds the one way to join pieces without the separator to a text. -/
theorem splitOn_eq_iff {separator : Letter} {text : Text} {pieces : List Text} :
    text.splitOn separator = pieces ↔
      pieces ≠ [] ∧ text = joined [separator] pieces ∧ ∀ piece ∈ pieces, separator ∉ piece := by
  constructor
  · rintro rfl
    exact ⟨List.splitOn_ne_nil separator text, (List.intercalate_splitOn separator).symm,
      fun _ => not_mem_of_mem_splitOn⟩
  · rintro ⟨hne, rfl, hpieces⟩
    exact List.splitOn_intercalate separator hpieces hne

theorem joined_concat (separator : Text) (pieces : List Text) (last : Text) :
    joined separator (pieces ++ [last]) = pieces.flatMap (· ++ separator) ++ last := by
  induction pieces with
  | nil => exact List.intercalate_singleton
  | cons piece pieces ih =>
      have hrest : pieces ++ [last] ≠ [] := List.concat_ne_nil last pieces
      rw [joined] at ih ⊢
      rw [List.cons_append, List.intercalate_cons_of_ne_nil hrest, ih, List.flatMap_cons,
        List.append_assoc, List.append_assoc, List.append_assoc]

theorem mem_of_mem_joined {separator : Text} {pieces : List Text} {c : Letter}
    (h : c ∈ joined separator pieces) : c ∈ separator ∨ ∃ piece ∈ pieces, c ∈ piece := by
  cases List.eq_nil_or_concat pieces with
  | inl hnil =>
      rw [hnil] at h
      exact absurd h List.not_mem_nil
  | inr hconcat =>
      obtain ⟨front, last, rfl⟩ := hconcat
      rw [List.concat_eq_append, joined_concat, List.mem_append, List.mem_flatMap] at h
      rcases h with ⟨piece, hpiece, hc⟩ | hlast
      · cases List.mem_append.mp hc with
        | inl hinside => exact .inr ⟨piece, by simp [hpiece], hinside⟩
        | inr hbetween => exact .inl hbetween
      · exact .inr ⟨last, by simp, hlast⟩

theorem mem_joined {separator piece : Text} {pieces : List Text} {c : Letter}
    (hpiece : piece ∈ pieces) (h : c ∈ piece) : c ∈ joined separator pieces := by
  cases List.eq_nil_or_concat pieces with
  | inl hnil =>
      rw [hnil] at hpiece
      exact absurd hpiece List.not_mem_nil
  | inr hconcat =>
      obtain ⟨front, last, rfl⟩ := hconcat
      rw [List.concat_eq_append, List.mem_append, List.mem_singleton] at hpiece
      rw [List.concat_eq_append, joined_concat, List.mem_append, List.mem_flatMap]
      rcases hpiece with hfront | rfl
      · exact .inl ⟨piece, hfront, List.mem_append_left separator h⟩
      · exact .inr h

/-! Blocks of lines with an empty line between any two of them. -/

def spaced (blocks : List (List Text)) : List Text :=
  [[]].intercalate blocks

theorem mem_spaced {line : Text} {blocks : List (List Text)} (h : line ∈ spaced blocks) :
    line = [] ∨ ∃ block ∈ blocks, line ∈ block := by
  induction blocks with
  | nil => exact absurd h List.not_mem_nil
  | cons block blocks ih =>
      have hfound : line ∈ block ∨ line = [] ∨ line ∈ spaced blocks := by
        cases blocks with
        | nil =>
            rw [spaced, List.intercalate_singleton] at h
            exact Or.inl h
        | cons next blocks =>
            rw [spaced, List.intercalate_cons_cons, List.append_assoc] at h
            simpa [spaced] using h
      rcases hfound with hblock | hempty | hrest
      · exact Or.inr ⟨block, List.mem_cons_self, hblock⟩
      · exact Or.inl hempty
      · cases ih hrest with
        | inl hempty => exact Or.inl hempty
        | inr hlater =>
            obtain ⟨later, hlater, hmem⟩ := hlater
            exact Or.inr ⟨later, List.mem_cons_of_mem block hlater, hmem⟩

theorem spaced_concat (blocks : List (List Text)) (block : List Text) :
    block <:+ spaced (blocks ++ [block]) := by
  induction blocks with
  | nil => exact ⟨[], by simp [spaced]⟩
  | cons first blocks ih =>
      have hrest : blocks ++ [block] ≠ [] := List.concat_ne_nil block blocks
      rw [List.cons_append, spaced, List.intercalate_cons_of_ne_nil hrest]
      exact ih.trans (List.suffix_append _ _)

theorem spaced_cons (block : List Text) (blocks : List (List Text)) :
    block <+: spaced (block :: blocks) := by
  cases blocks with
  | nil => exact ⟨[], by simp [spaced]⟩
  | cons next blocks =>
      rw [spaced, List.intercalate_cons_cons]
      exact (List.prefix_append block [[]]).trans (List.prefix_append _ _)

/-- Writing each block with a line end after every line and one more after the block. -/
theorem flatMap_spaced {blocks : List (List Text)} (h : blocks ≠ []) :
    blocks.flatMap (fun block => block.flatMap (· ++ newline) ++ newline) =
      (spaced blocks).flatMap (· ++ newline) ++ newline := by
  induction blocks with
  | nil => exact absurd rfl h
  | cons block blocks ih =>
      cases blocks with
      | nil => simp [spaced]
      | cons next blocks =>
          rw [List.flatMap_cons, ih (List.cons_ne_nil next blocks), spaced, spaced,
            List.intercalate_cons_cons]
          simp

end ReleaseNotes.Text
