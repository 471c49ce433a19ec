import ReleaseNotes.Proofs.Text.Trimming

namespace ReleaseNotes.Text

/-! What folding line ends and dropping the first line feeds do to a text, piece by piece. -/

theorem foldNewlines_cons {c : Letter} (h : c ≠ '\r') (text : Text) :
    foldNewlines (c :: text) = c :: foldNewlines text := by
  rw [foldNewlines]
  · exact fun _ heq => absurd heq h
  · exact fun heq => absurd heq h

theorem foldNewlines_return_newline (text : Text) :
    foldNewlines (.char '\r' :: .char '\n' :: text) = foldNewlines (.char '\n' :: text) := by
  have hnewline : foldNewlines (.char '\n' :: text) = Letter.char '\n' :: foldNewlines text :=
    foldNewlines_cons (by decide) text
  rw [hnewline, foldNewlines]

theorem foldNewlines_return {c : Letter} (h : c ≠ '\n') (text : Text) :
    foldNewlines (.char '\r' :: c :: text) = Letter.char '\n' :: foldNewlines (c :: text) := by
  rw [foldNewlines]
  intro rest heq
  exact h (List.cons.inj heq).1

theorem foldNewlines_eq_self {text : Text} (h : Letter.char '\r' ∉ text) :
    foldNewlines text = text := by
  induction text with
  | nil => rfl
  | cons c text ih =>
      rw [List.mem_cons, not_or] at h
      rw [foldNewlines_cons (Ne.symm h.1), ih h.2]

/-- A text is folded in two halves, unless they part a carriage return from its line feed. -/
theorem foldNewlines_append {c : Letter} (h : c ≠ '\n') (a b : Text) :
    foldNewlines (a ++ c :: b) = foldNewlines a ++ foldNewlines (c :: b) := by
  induction a with
  | nil => rfl
  | cons d a ih =>
      by_cases hd : d = '\r'
      · subst hd
        cases a with
        | nil => exact foldNewlines_return h b
        | cons e a =>
            by_cases he : e = '\n'
            · subst he
              rw [foldNewlines_return_newline, ← ih]
              exact foldNewlines_return_newline (a ++ c :: b)
            · rw [foldNewlines_return he, List.cons_append (a := Letter.char '\n'), ← ih]
              exact foldNewlines_return he (a ++ c :: b)
      · rw [List.cons_append, foldNewlines_cons hd, foldNewlines_cons hd, ih, List.cons_append]

theorem return_not_mem_foldNewlines (text : Text) : Letter.char '\r' ∉ foldNewlines text := by
  induction text with
  | nil => exact List.not_mem_nil
  | cons c text ih =>
      by_cases hc : c = '\r'
      · subst hc
        cases text with
        | nil => decide
        | cons d text =>
            by_cases hd : d = '\n'
            · subst hd
              rw [foldNewlines_return_newline]
              exact ih
            · rw [foldNewlines_return hd, List.mem_cons, not_or]
              exact ⟨by decide, ih⟩
      · rw [foldNewlines_cons hc, List.mem_cons, not_or]
        exact ⟨Ne.symm hc, ih⟩

/-! The line feeds at the start. -/

theorem dropNewlines_suffix (text : Text) : dropNewlines text <:+ text :=
  List.dropWhile_suffix _

theorem dropNewlines_newline (text : Text) :
    dropNewlines (.char '\n' :: text) = dropNewlines text :=
  List.dropWhile_cons_of_pos rfl

theorem dropNewlines_cons {c : Letter} (h : c ≠ '\n') (text : Text) :
    dropNewlines (c :: text) = c :: text :=
  List.dropWhile_cons_of_neg (by simpa using h)

theorem suffix_dropNewlines_append {c : Letter} (h : c ≠ '\n') (a b : Text) :
    c :: b <:+ dropNewlines (a ++ c :: b) := by
  induction a with
  | nil => exact ⟨[], (dropNewlines_cons h b).symm⟩
  | cons d a ih =>
      by_cases hd : d = '\n'
      · subst hd
        rw [List.cons_append, dropNewlines_newline]
        exact ih
      · rw [List.cons_append, dropNewlines_cons hd]
        exact List.suffix_append (d :: a) (c :: b)

/-- Folding does not reach past the first line feeds. -/
theorem dropNewlines_foldNewlines (text : Text) :
    dropNewlines (foldNewlines (dropNewlines text)) = dropNewlines (foldNewlines text) := by
  induction text with
  | nil => rfl
  | cons c text ih =>
      by_cases hc : c = '\n'
      · subst hc
        rw [dropNewlines_newline, foldNewlines_cons (by decide), dropNewlines_newline, ih]
      · rw [dropNewlines_cons hc]

theorem first_of_dropNewlines {c : Letter} {text rest : Text} (h : dropNewlines text = c :: rest) :
    c ≠ '\n' := by
  induction text with
  | nil => cases h
  | cons d text ih =>
      by_cases hd : d = '\n'
      · subst hd
        rw [dropNewlines_newline] at h
        exact ih h
      · rw [dropNewlines_cons hd] at h
        cases h
        exact hd

theorem mem_dropNewlines {c : Letter} (h : c ≠ '\n') {text : Text} :
    c ∈ dropNewlines text ↔ c ∈ text := by
  constructor
  · exact fun hmem => (dropNewlines_suffix text).subset hmem
  · intro hmem
    obtain ⟨a, b, rfl⟩ := List.append_of_mem hmem
    exact (suffix_dropNewlines_append h a b).subset List.mem_cons_self

/-- A trimmed text does not end in a blank. -/
theorem isBlank_of_strip_eq {text front : Text} {last : Letter}
    (h : strip text = front ++ [last]) : isBlank last = false := by
  have hne : List.rdropWhile isBlank (text.dropWhile isBlank) ≠ [] := by
    intro hnil
    exact List.concat_ne_nil last front (h.symm.trans hnil)
  have hlast := List.rdropWhile_last_not isBlank (text.dropWhile isBlank) hne
  have heq : List.rdropWhile isBlank (text.dropWhile isBlank) = front ++ [last] := h
  simp only [heq, List.getLast_append_singleton] at hlast
  exact Bool.eq_false_iff.mpr hlast

/-! The first line of a text is the same however the lines end, and whatever line ends follow. -/

theorem firstLine_cons_break {c : Letter} (h : isLineBreak c = true) (text : Text) :
    firstLine (c :: text) = [] :=
  List.takeWhile_cons_of_neg (by simp [h])

theorem firstLine_cons {c : Letter} (h : isLineBreak c = false) (text : Text) :
    firstLine (c :: text) = c :: firstLine text :=
  List.takeWhile_cons_of_pos (by simp [h])

theorem firstLine_concat_break {c : Letter} (h : isLineBreak c = true) (text : Text) :
    firstLine (text ++ [c]) = firstLine text := by
  induction text with
  | nil => exact firstLine_cons_break h []
  | cons d text ih =>
      rw [List.cons_append]
      cases hd : isLineBreak d with
      | true => rw [firstLine_cons_break hd, firstLine_cons_break hd]
      | false => rw [firstLine_cons hd, firstLine_cons hd, ih]

/-- What a carriage return opens is folded to a line feed and what follows. -/
theorem exists_foldNewlines_return (text : Text) :
    ∃ rest, foldNewlines (.char '\r' :: text) = .char '\n' :: rest := by
  cases text with
  | nil => exact ⟨[], rfl⟩
  | cons c text =>
      by_cases h : c = '\n'
      · subst h
        exact ⟨foldNewlines text,
          (foldNewlines_return_newline text).trans (foldNewlines_cons (by decide) text)⟩
      · exact ⟨foldNewlines (c :: text), foldNewlines_return h text⟩

theorem firstLine_foldNewlines (text : Text) : firstLine (foldNewlines text) = firstLine text := by
  induction text with
  | nil => rfl
  | cons c text ih =>
      by_cases hreturn : c = '\r'
      · subst hreturn
        obtain ⟨rest, hrest⟩ := exists_foldNewlines_return text
        rw [hrest, firstLine_cons_break (by decide), firstLine_cons_break (by decide)]
      · rw [foldNewlines_cons hreturn]
        cases hbreak : isLineBreak c with
        | true => rw [firstLine_cons_break hbreak, firstLine_cons_break hbreak]
        | false => rw [firstLine_cons hbreak, firstLine_cons hbreak, ih]

theorem firstLine_dropEndNewlines (text : Text) :
    firstLine (dropEndWhile (· == '\n') text) = firstLine text := by
  induction text using List.reverseRecOn with
  | nil => rfl
  | append_singleton text c ih =>
      by_cases h : c = '\n'
      · subst h
        rw [dropEndWhile_append_of_all (by simp), ih, firstLine_concat_break (by decide)]
      · have hkept : dropEndWhile (· == Letter.char '\n') (text ++ [c]) = text ++ [c] :=
          List.rdropWhile_concat_neg _ _ _ (by simpa using h)
        rw [hkept]

theorem firstLine_stripNewlines {text : Text} (h : dropNewlines text = text) :
    firstLine (stripNewlines text) = firstLine text := by
  rw [stripNewlines, h, firstLine_dropEndNewlines]

theorem dropNewlines_foldNewlines_eq_self {text : Text} (hnewline : text.head? ≠ some '\n')
    (hreturn : text.head? ≠ some '\r') : dropNewlines (foldNewlines text) = foldNewlines text := by
  cases text with
  | nil => rfl
  | cons c text =>
      have hc : c ≠ '\r' := fun heq => hreturn (congrArg some heq)
      rw [foldNewlines_cons hc]
      exact dropNewlines_cons (fun heq => hnewline (congrArg some heq)) _

end ReleaseNotes.Text
