import ReleaseNotes.Proofs.Commit.Grammar

namespace ReleaseNotes.Commit

/-!
A commit is read from a message exactly if the message spells it: a type, a scope if there is one, a
colon, one blank and a subject, up to the end of the first line. No message spells two commits.
-/

/-- The blanks that may stand after the colon. -/
def gaps : List Letter := [Letter.char ' ', Letter.char '\t', Letter.char '\x0B', Letter.char '\x0C']

structure Spelling where
  type : Text
  scope : Option Text
  gap : Letter
  subject : Text
  rest : Text

namespace Spelling

def line (spelling : Spelling) : Text :=
  spelling.type ++ (scopeText spelling.scope ++
    Letter.char ':' :: spelling.gap :: spelling.subject)

def message (spelling : Spelling) : Text :=
  spelling.line ++ spelling.rest

def commit (spelling : Spelling) : Commit :=
  ⟨spelling.type, spelling.scope, Text.capitalizeFirst spelling.subject⟩

/-- The subject runs up to the first line break, or to the end of the message. -/
structure IsValid (spelling : Spelling) : Prop where
  type : IsWord spelling.type
  scope : ∀ name, spelling.scope = some name → IsWord name
  gap : spelling.gap ∈ gaps
  subject : spelling.subject ≠ []
  subject_unbroken : ∀ c ∈ spelling.subject, Text.isLineBreak c = false
  rest : ∀ c, spelling.rest.head? = some c → Text.isLineBreak c = true

end Spelling

/-! Reading a line that is spelled. -/

theorem word_append {name : Text} {c : Letter} (hname : ∀ c ∈ name, isWordLetter c = true)
    (hc : isWordLetter c = false) (rest : Text) : word (name ++ c :: rest) = name := by
  rw [word, List.takeWhile_append_of_pos hname, List.takeWhile_cons_of_neg (by simp [hc]),
    List.append_nil]

theorem afterWord_append {name : Text} {c : Letter} (hname : ∀ c ∈ name, isWordLetter c = true)
    (hc : isWordLetter c = false) (rest : Text) : afterWord (name ++ c :: rest) = c :: rest := by
  rw [afterWord, List.dropWhile_append_of_pos hname, List.dropWhile_cons_of_neg (by simp [hc])]

theorem readScope_scopeText {scope : Option Text} (h : ∀ name, scope = some name → IsWord name)
    (rest : Text) :
    readScope (scopeText scope ++ Letter.char ':' :: rest) = some (scope, Letter.char ':' :: rest) := by
  cases scope with
  | none => rfl
  | some name =>
      obtain ⟨hne, hname⟩ := h name rfl
      obtain ⟨c, letters, rfl⟩ := List.exists_cons_of_ne_nil hne
      have hclose : isWordLetter (Letter.char ')') = false := by decide
      have hword := word_append hname hclose (Letter.char ':' :: rest)
      have hafter := afterWord_append hname hclose (Letter.char ':' :: rest)
      simp only [scopeText, List.cons_append, List.append_assoc, List.nil_append] at hword hafter ⊢
      simp only [readScope, hword, hafter]

/-- What follows the type of a commit cannot be taken for a part of it. -/
theorem exists_scopeText_colon (scope : Option Text) (rest : Text) :
    ∃ c following, scopeText scope ++ Letter.char ':' :: rest = c :: following ∧
      isWordLetter c = false := by
  cases scope with
  | none => exact ⟨_, _, rfl, by decide⟩
  | some name => exact ⟨_, _, rfl, by decide⟩

namespace Spelling

variable {spelling other : Spelling}

theorem IsValid.isGap (h : spelling.IsValid) : isGap spelling.gap = true := by
  have hgaps : ∀ c ∈ gaps, Commit.isGap c = true := by decide
  exact hgaps spelling.gap h.gap

theorem readLine_line (h : spelling.IsValid) : readLine spelling.line = some spelling.commit := by
  obtain ⟨c, following, hfollowing, hc⟩ :=
    exists_scopeText_colon spelling.scope (spelling.gap :: spelling.subject)
  have hword : word spelling.line = spelling.type := by
    rw [line, hfollowing, word_append h.type.2 hc]
  have hafter : afterWord spelling.line = scopeText spelling.scope ++
      Letter.char ':' :: spelling.gap :: spelling.subject := by
    rw [line, hfollowing, afterWord_append h.type.2 hc]
  have hdescription : readDescription (Letter.char ':' :: spelling.gap :: spelling.subject) =
      some spelling.subject := by
    obtain ⟨c, subject, hsubject⟩ := List.exists_cons_of_ne_nil h.subject
    rw [hsubject, readDescription, if_pos h.isGap]
  obtain ⟨t, letters, htype⟩ := List.exists_cons_of_ne_nil h.type.1
  rw [readLine, hword, hafter]
  simp only [htype, readScope_scopeText h.scope, hdescription, Option.map_some, commit]

/-! The first line of a message that is spelled. -/

theorem isLineBreak_of_isWordLetter {c : Letter} (h : isWordLetter c = true) :
    Text.isLineBreak c = false := by
  have hcode := code_of_isWordLetter h
  rw [Bool.eq_false_iff]
  intro hbreak
  simp only [Text.isLineBreak, Bool.or_eq_true, beq_iff_eq] at hbreak
  rcases hbreak with ((rfl | rfl) | rfl) | rfl <;> exact absurd hcode (by decide)

theorem isLineBreak_of_mem_scopeText {scope : Option Text} {c : Letter}
    (h : ∀ name, scope = some name → IsWord name) (hc : c ∈ scopeText scope) :
    Text.isLineBreak c = false := by
  cases scope with
  | none => exact absurd hc List.not_mem_nil
  | some name =>
      simp only [scopeText, List.mem_cons, List.mem_append, List.not_mem_nil, or_false] at hc
      rcases hc with rfl | hc | rfl
      · decide
      · exact isLineBreak_of_isWordLetter ((h name rfl).2 c hc)
      · decide

theorem IsValid.line_unbroken (h : spelling.IsValid) {c : Letter} (hc : c ∈ spelling.line) :
    Text.isLineBreak c = false := by
  simp only [line, List.mem_append, List.mem_cons] at hc
  rcases hc with hc | hc | rfl | rfl | hc
  · exact isLineBreak_of_isWordLetter (h.type.2 c hc)
  · exact isLineBreak_of_mem_scopeText h.scope hc
  · decide
  · have hgaps : ∀ c ∈ gaps, Text.isLineBreak c = false := by decide
    exact hgaps spelling.gap h.gap
  · exact h.subject_unbroken c hc

theorem firstLine_message (h : spelling.IsValid) : Text.firstLine spelling.message = spelling.line := by
  have hline : ∀ c ∈ spelling.line, (!Text.isLineBreak c) = true := fun c hc => by
    rw [h.line_unbroken hc, Bool.not_false]
  have hrest : Text.firstLine spelling.rest = [] := by
    cases hrest : spelling.rest with
    | nil => rfl
    | cons c rest => exact List.takeWhile_cons_of_neg (by simp [h.rest c (by rw [hrest]; rfl)])
  rw [message, Text.firstLine, List.takeWhile_append_of_pos hline, ← Text.firstLine, hrest,
    List.append_nil]

theorem readLine_firstLine (h : spelling.IsValid) :
    readLine (Text.firstLine spelling.message) = some spelling.commit := by
  rw [firstLine_message h, readLine_line h]

theorem eq_of_message_eq (h : spelling.IsValid) (hother : other.IsValid)
    (hmessage : spelling.message = other.message) : spelling = other := by
  have hcommit : spelling.commit = other.commit := by
    apply Option.some.inj
    rw [← readLine_firstLine h, ← readLine_firstLine hother, hmessage]
  have hline : spelling.line = other.line := by
    rw [← firstLine_message h, ← firstLine_message hother, hmessage]
  have hrest : spelling.rest = other.rest := by
    rw [message, message, hline] at hmessage
    exact List.append_cancel_left hmessage
  obtain ⟨type, scope, gap, subject, rest⟩ := spelling
  obtain ⟨type', scope', gap', subject', rest'⟩ := other
  simp only [commit, Commit.mk.injEq] at hcommit
  obtain ⟨rfl, rfl, _⟩ := hcommit
  have hwords := List.append_cancel_left (List.append_cancel_left hline)
  simp only [List.cons.injEq, true_and] at hwords
  obtain ⟨rfl, rfl⟩ := hwords
  cases hrest
  rfl

end Spelling

/-- No blank but these four stands on a line of its own. -/
theorem mem_gaps_of_isGap {c : Letter} (hc : isGap c = true) (hbreak : Text.isLineBreak c = false) :
    c ∈ gaps := by
  simp only [isGap, Bool.or_eq_true, Bool.and_eq_true, decide_eq_true_eq, beq_iff_eq] at hc
  simp only [Text.isLineBreak, Bool.or_eq_false_iff, beq_eq_false_iff_ne] at hbreak
  obtain ⟨⟨⟨hnewline, hreturn⟩, _⟩, _⟩ := hbreak
  rcases hc with rfl | ⟨hlow, hhigh⟩
  · decide
  · have hcodes : c.code = '\t'.toNat ∨ c.code = '\n'.toNat ∨ c.code = '\x0B'.toNat ∨
        c.code = '\x0C'.toNat ∨ c.code = '\r'.toNat := by
      show c.code = 9 ∨ c.code = 10 ∨ c.code = 11 ∨ c.code = 12 ∨ c.code = 13
      omega
    rcases hcodes with h | h | h | h | h
    · rw [Text.eq_char_of_code h]
      decide
    · exact absurd (Text.eq_char_of_code h) hnewline
    · rw [Text.eq_char_of_code h]
      decide
    · rw [Text.eq_char_of_code h]
      decide
    · exact absurd (Text.eq_char_of_code h) hreturn

theorem isLineBreak_head_dropWhile {text : Text} {c : Letter}
    (h : (text.dropWhile fun c => !Text.isLineBreak c).head? = some c) :
    Text.isLineBreak c = true := by
  have hhead := List.head?_dropWhile_not (fun c => !Text.isLineBreak c) text
  rw [h] at hhead
  simpa using hhead

theorem exists_spelling_of_readLine {message : Text} {commit : Commit}
    (h : readLine (Text.firstLine message) = some commit) :
    ∃ spelling : Spelling, spelling.IsValid ∧ spelling.message = message ∧
      spelling.commit = commit := by
  obtain ⟨htype, hscope, gap, subject, hgap, hne, hline, hdescription⟩ := readLine_eq_some h
  have hunbroken : ∀ c ∈ Text.firstLine message, Text.isLineBreak c = false := by
    intro c hc
    simpa using List.all_eq_true.mp List.all_takeWhile c hc
  rw [hline] at hunbroken
  simp only [List.mem_append, List.mem_cons] at hunbroken
  let rest := message.dropWhile fun c => !Text.isLineBreak c
  refine ⟨⟨commit.type, commit.scope, gap, subject, rest⟩, ?_, ?_, ?_⟩
  · exact {
      type := htype
      scope := hscope
      gap := mem_gaps_of_isGap hgap (hunbroken gap (by simp))
      subject := hne
      subject_unbroken := fun c hc => hunbroken c (by simp [hc])
      rest := fun c => isLineBreak_head_dropWhile }
  · rw [Spelling.message, Spelling.line, ← hline]
    exact List.takeWhile_append_dropWhile
  · rw [Spelling.commit, ← hdescription]

/-- A commit is read from a message exactly if the message spells it and its type is known, and no
message is spelled in two ways. -/
theorem read_eq_some_iff :
    (∀ (known : Text → Bool) (message : Text) (commit : Commit),
      read known message = some commit ↔
        ∃ spelling : Spelling, spelling.IsValid ∧ spelling.message = message ∧
          known spelling.type = true ∧ spelling.commit = commit) ∧
      ∀ spelling other : Spelling, spelling.IsValid → other.IsValid →
        spelling.message = other.message → spelling = other := by
  refine ⟨fun known message commit => ?_, fun _ _ => Spelling.eq_of_message_eq⟩
  rw [read, Option.filter_eq_some_iff]
  constructor
  · rintro ⟨hline, hknown⟩
    obtain ⟨spelling, hvalid, hmessage, rfl⟩ := exists_spelling_of_readLine hline
    exact ⟨spelling, hvalid, hmessage, hknown, rfl⟩
  · rintro ⟨spelling, hvalid, rfl, hknown, rfl⟩
    exact ⟨Spelling.readLine_firstLine hvalid, hknown⟩

/-- A tab after the colon, and a line that ends in a carriage return and a line feed. -/
theorem read_eq_some_iff_tab_return :
    let spelling : Spelling :=
      ⟨"fix".text, some "core_1".text, Letter.char '\t', "keep order".text, "\r\n\nBody".text⟩
    let known : Text → Bool := fun type => type == "fix".text
    let message := "fix(core_1):\tkeep order\r\n\nBody".text
    spelling.IsValid ∧ spelling.message = message ∧ known spelling.type = true ∧
      read known message = some ⟨"fix".text, some "core_1".text, "Keep order".text⟩ ∧
      ∀ other : Spelling, other.IsValid → other.message = message → other = spelling := by
  intro spelling known message
  have hvalid : spelling.IsValid := {
    type := ⟨by decide, by decide⟩
    scope := by
      rintro name ⟨⟩
      exact ⟨by decide, by decide⟩
    gap := by decide
    subject := by decide
    subject_unbroken := by decide
    rest := by
      rintro c ⟨⟩
      decide }
  have hcommit : spelling.commit = ⟨"fix".text, some "core_1".text, "Keep order".text⟩ := by
    decide +kernel
  refine ⟨hvalid, rfl, by decide, ?_, fun other hother hmessage => ?_⟩
  · exact (read_eq_some_iff.1 known message _).mpr ⟨spelling, hvalid, rfl, by decide, hcommit⟩
  · exact read_eq_some_iff.2 other spelling hother hvalid hmessage

/-!
A commit that was read is written back as a line that spells it: its description is one line still,
and it begins with its own capital, so reading changes nothing any more.
-/

def written (commit : Commit) : Text :=
  commit.type ++ scopeText commit.scope ++ ": ".text ++ commit.description

namespace Spelling

/-- The spelling of a commit by its own description. -/
def ofCommit (commit : Commit) (rest : Text) : Spelling :=
  ⟨commit.type, commit.scope, Letter.char ' ', commit.description, rest⟩

theorem message_ofCommit (commit : Commit) (rest : Text) :
    (ofCommit commit rest).message = commit.written ++ rest := by
  have hcolon : ": ".text = [Letter.char ':', Letter.char ' '] := rfl
  rw [message, line, written, hcolon]
  simp only [ofCommit, List.append_assoc, List.cons_append, List.nil_append]

variable {spelling : Spelling}

theorem IsValid.description_unbroken (h : spelling.IsValid) {c : Letter}
    (hc : c ∈ spelling.commit.description) : Text.isLineBreak c = false := by
  cases Text.mem_capitalizeFirst hc with
  | inl hsubject => exact h.subject_unbroken c hsubject
  | inr hinline => exact hinline

theorem IsValid.ofCommit (h : spelling.IsValid) {rest : Text}
    (hrest : ∀ c, rest.head? = some c → Text.isLineBreak c = true) :
    (ofCommit spelling.commit rest).IsValid where
  type := h.type
  scope := h.scope
  gap := by
    show Letter.char ' ' ∈ gaps
    decide
  subject := Text.capitalizeFirst_ne_nil h.subject
  subject_unbroken := fun _ hc => h.description_unbroken hc
  rest := hrest

theorem capitalizeFirst_description (spelling : Spelling) :
    Text.capitalizeFirst spelling.commit.description = spelling.commit.description :=
  Text.capitalizeFirst_capitalizeFirst spelling.subject

theorem commit_ofCommit (spelling : Spelling) (rest : Text) :
    (ofCommit spelling.commit rest).commit = spelling.commit := by
  rw [commit, ofCommit, capitalizeFirst_description]

end Spelling

/-- The description of a commit that was read is as it would be read, and the commit is read again
from what it is written back as, whatever lines follow. -/
theorem read_written {known : Text → Bool} {message : Text} {commit : Commit}
    (h : read known message = some commit) :
    Text.capitalizeFirst commit.description = commit.description ∧
      ∀ rest : Text, (∀ c, rest.head? = some c → Text.isLineBreak c = true) →
        read known (commit.written ++ rest) = some commit := by
  obtain ⟨hline, hknown⟩ := Option.filter_eq_some_iff.mp h
  obtain ⟨spelling, hvalid, _, rfl⟩ := exists_spelling_of_readLine hline
  refine ⟨spelling.capitalizeFirst_description, fun rest hrest => ?_⟩
  have hagain := Spelling.readLine_firstLine (hvalid.ofCommit hrest)
  rw [Spelling.message_ofCommit, Spelling.commit_ofCommit] at hagain
  exact Option.filter_eq_some_iff.mpr ⟨hagain, hknown⟩

/-- The first letter has a capital of two letters, of which the first is no letter with case. -/
theorem read_written_long_capital :
    let known : Text → Bool := fun type => type == "fix".text
    let message := "fix(core):\t\u0149ew order\r\nBody".text
    let commit : Commit := ⟨"fix".text, some "core".text, "\u02BCNew order".text⟩
    let rest := "\u2028Body".text
    read known message = some commit ∧
      (∀ c, rest.head? = some c → Text.isLineBreak c = true) ∧
      Text.capitalizeFirst commit.description = commit.description ∧
      read known ("fix(core): \u02BCNew order\u2028Body".text) = some commit := by
  intro known message commit rest
  have hread : read known message = some commit := by decide +kernel
  have hrest : ∀ c, rest.head? = some c → Text.isLineBreak c = true := by
    rintro c ⟨⟩
    decide
  obtain ⟨hdescription, hagain⟩ := read_written hread
  exact ⟨hread, hrest, hdescription, hagain rest hrest⟩

end ReleaseNotes.Commit
