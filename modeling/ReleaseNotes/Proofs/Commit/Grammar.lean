import ReleaseNotes.Commit
import ReleaseNotes.Proofs.Text.Capitals

namespace ReleaseNotes

namespace Commit

/-! What a line looks like from which a commit is read. -/

def scopeText : Option Text → Text
  | none => []
  | some name => Letter.char '(' :: (name ++ [Letter.char ')'])

def IsWord (text : Text) : Prop :=
  text ≠ [] ∧ ∀ c ∈ text, isWordLetter c = true

theorem word_append_afterWord (text : Text) : word text ++ afterWord text = text :=
  List.takeWhile_append_dropWhile

theorem isWordLetter_of_mem_word {c : Letter} {text : Text} (h : c ∈ word text) :
    isWordLetter c = true :=
  List.all_eq_true.mp List.all_takeWhile c h

theorem readScope_eq_some {text rest : Text} {scope : Option Text}
    (h : readScope text = some (scope, rest)) :
    text = scopeText scope ++ rest ∧
      ∀ name, scope = some name → IsWord name := by
  unfold readScope at h
  split at h
  · rename_i text
    split at h
    · cases h
    · rename_i afterName _ hafter hname
      cases h
      constructor
      · have htext := word_append_afterWord text
        rw [hafter, List.append_cons] at htext
        exact congrArg (Letter.char '(' :: ·) htext.symm
      · rintro name ⟨⟩
        exact ⟨hname, fun c hc => isWordLetter_of_mem_word hc⟩
    · cases h
  · cases h
    exact ⟨rfl, fun name hname => nomatch hname⟩

theorem readDescription_eq_some {text description : Text}
    (h : readDescription text = some description) :
    description ≠ [] ∧
      ∃ gap, isGap gap = true ∧ text = Letter.char ':' :: gap :: description := by
  unfold readDescription at h
  split at h
  · split at h
    · rename_i hgap
      cases h
      exact ⟨List.cons_ne_nil _ _, _, hgap, rfl⟩
    · cases h
  · cases h

theorem readLine_eq_some {line : Text} {commit : Commit} (h : readLine line = some commit) :
    IsWord commit.type ∧ (∀ name, commit.scope = some name → IsWord name) ∧
      ∃ gap text, isGap gap = true ∧ text ≠ [] ∧
        line = commit.type ++ (scopeText commit.scope ++ Letter.char ':' :: gap :: text) ∧
        commit.description = Text.capitalizeFirst text := by
  unfold readLine at h
  split at h
  · cases h
  · rename_i hword
    split at h
    · cases h
    · rename_i scope rest hscope
      obtain ⟨text, htext, rfl⟩ := Option.map_eq_some_iff.mp h
      obtain ⟨hne, gap, hgap, hrest⟩ := readDescription_eq_some htext
      obtain ⟨hafter, hname⟩ := readScope_eq_some hscope
      refine ⟨⟨hword, fun c hc => isWordLetter_of_mem_word hc⟩, hname, gap, text, hgap, hne, ?_, rfl⟩
      rw [← hrest, ← hafter]
      exact (word_append_afterWord line).symm

/-! No commit is read from blanks. -/

theorem code_of_isWordLetter {c : Letter} (h : isWordLetter c = true) :
    (48 ≤ c.code ∧ c.code ≤ 57) ∨ (65 ≤ c.code ∧ c.code ≤ 122) := by
  cases c with
  | surrogate half => cases h
  | char c =>
      rw [isWordLetter, Letter.has, Bool.or_eq_true, beq_iff_eq] at h
      show (48 ≤ c.toNat ∧ c.toNat ≤ 57) ∨ (65 ≤ c.toNat ∧ c.toNat ≤ 122)
      cases h with
      | inl halphanum =>
          have hranges : ((decide (65 ≤ c.val ∧ c.val ≤ 90) ||
              decide (97 ≤ c.val) && decide (c.val ≤ 122)) ||
                decide (48 ≤ c.val) && decide (c.val ≤ 57)) = true := halphanum
          simp only [Bool.or_eq_true, Bool.and_eq_true, decide_eq_true_eq] at hranges
          change ((65 ≤ c.toNat ∧ c.toNat ≤ 90) ∨ (97 ≤ c.toNat ∧ c.toNat ≤ 122)) ∨
            (48 ≤ c.toNat ∧ c.toNat ≤ 57) at hranges
          omega
      | inr hunderscore =>
          subst hunderscore
          decide

theorem isWordLetter_of_isBlank {c : Letter} (h : Text.isBlank c = true) :
    isWordLetter c = false := by
  rw [Bool.eq_false_iff]
  intro hword
  have hcode := code_of_isWordLetter hword
  unfold Text.isBlank at h
  simp only [Bool.or_eq_true, Bool.and_eq_true, decide_eq_true_eq, beq_iff_eq] at h
  omega

theorem readLine_of_all_blank {line : Text} (h : ∀ c ∈ line, Text.isBlank c = true) :
    readLine line = none := by
  have hword : word line = [] := by
    cases line with
    | nil => rfl
    | cons c line =>
        have hc := isWordLetter_of_isBlank (h c List.mem_cons_self)
        exact List.takeWhile_cons_of_neg (Bool.not_eq_true _ ▸ hc)
  rw [readLine, hword]

theorem read_of_isAllBlank {message : Text} (h : Text.isAllBlank message = true)
    (known : Text → Bool) : read known message = none := by
  have hline : ∀ c ∈ Text.firstLine message, Text.isBlank c = true := fun c hc =>
    List.all_eq_true.mp h c ((List.takeWhile_prefix _).subset hc)
  rw [read, readLine_of_all_blank hline]
  rfl

end Commit

namespace Text

theorem newline_not_mem_capitalizeFirst {text : Text} (h : Letter.char '\n' ∉ text) :
    Letter.char '\n' ∉ capitalizeFirst text := by
  intro hmem
  cases mem_capitalizeFirst hmem with
  | inl htext => exact h htext
  | inr hinline => exact absurd hinline (by decide)

theorem newline_not_mem_firstLine (text : Text) : Letter.char '\n' ∉ firstLine text := by
  intro h
  have hbreak := List.all_eq_true.mp List.all_takeWhile _ h
  exact absurd hbreak (by decide)

end Text

namespace Commit

/-- Whatever a message says after its first line, the line of its commit is one line. -/
theorem newline_not_mem_line {known : Text → Bool} {message : Text} {commit : Commit}
    (h : read known message = some commit) : Letter.char '\n' ∉ commit.line := by
  obtain ⟨hline, _⟩ := Option.filter_eq_some_iff.mp h
  obtain ⟨_, _, gap, text, _, _, hfirst, hdescription⟩ := readLine_eq_some hline
  have hnewline := Text.newline_not_mem_firstLine message
  rw [hfirst] at hnewline
  simp only [List.mem_append, List.mem_cons, not_or] at hnewline
  obtain ⟨_, hscope, _, _, htext⟩ := hnewline
  have hdescription : Letter.char '\n' ∉ commit.description :=
    hdescription ▸ Text.newline_not_mem_capitalizeFirst htext
  unfold line
  split
  · exact hdescription
  · exact hdescription
  · rename_i scope _ hcommit
    rw [hcommit, scopeText] at hscope
    simp only [List.mem_append, List.mem_cons, not_or] at hscope ⊢
    exact ⟨⟨⟨by decide, hscope.2.1⟩, by decide⟩, hdescription⟩

end Commit

end ReleaseNotes
