import ReleaseNotes.Text.Cut

namespace ReleaseNotes.Text

/-!
Where a word begins inside a text. A cut, a replacement and a search all pass over a stretch in
which no word begins, so each of them can be read stretch by stretch.
-/

/-- No occurrence of the word begins inside the first text when the second follows it. -/
def Absent (word : Text) : Text → Text → Prop
  | [], _ => True
  | c :: text, following => ¬ word <+: c :: (text ++ following) ∧ Absent word text following

/-- Whether no occurrence of the word begins inside a text, whatever follows it. -/
def isAbsent (word : Text) : Text → Bool
  | [] => true
  | c :: text =>
      !word.isPrefixOf (c :: text) && !(c :: text).isPrefixOf word && isAbsent word text

theorem absent_of_isAbsent {word text : Text} (h : isAbsent word text = true)
    (following : Text) : Absent word text following := by
  induction text with
  | nil => trivial
  | cons c text ih =>
      simp only [isAbsent, Bool.and_eq_true, Bool.not_eq_true', ← Bool.not_eq_true,
        List.isPrefixOf_iff_prefix] at h
      obtain ⟨⟨hword, htext⟩, hrest⟩ := h
      refine ⟨?_, ih hrest⟩
      intro hopens
      have hopening : c :: text <+: c :: (text ++ following) :=
        List.prefix_append (c :: text) following
      cases List.prefix_or_prefix_of_prefix hopens hopening with
      | inl hwithin => exact hword hwithin
      | inr hacross => exact htext hacross

theorem isAbsent_of_not_mem {w : Letter} {word text : Text} (h : w ∉ text) :
    isAbsent (w :: word) text = true := by
  induction text with
  | nil => rfl
  | cons c text ih =>
      rw [List.mem_cons, not_or] at h
      obtain ⟨hne, hrest⟩ := h
      simp [isAbsent, List.isPrefixOf, hne, Ne.symm hne, ih hrest]

theorem absent_append {word a b following : Text} :
    Absent word (a ++ b) following ↔ Absent word a (b ++ following) ∧ Absent word b following := by
  induction a with
  | nil => exact ⟨fun h => ⟨trivial, h⟩, And.right⟩
  | cons c a ih =>
      rw [List.cons_append, Absent, Absent, ih, List.append_assoc, and_assoc]

/-! Searching from either end. -/

/-- The text before the first occurrence of a word, and the text after it. -/
def findFirst? (word : Text) : Text → Option (Text × Text)
  | [] => none
  | c :: text =>
      match after? word (c :: text) with
      | some rest => some ([], rest)
      | none => (findFirst? word text).map fun (before, rest) => (c :: before, rest)

/-- The text before the last occurrence of a word, and the text after it. -/
def findLast? (word : Text) : Text → Option (Text × Text)
  | [] => none
  | c :: text =>
      match findLast? word text with
      | some (before, rest) => some (c :: before, rest)
      | none => (after? word (c :: text)).map fun rest => ([], rest)

theorem after?_eq_none {word text : Text} (h : ¬ word <+: text) : after? word text = none := by
  cases hafter : after? word text with
  | none => rfl
  | some rest => exact absurd ⟨rest, (after?_eq_some_iff.mp hafter).symm⟩ h

theorem findFirst?_append {word a b : Text} (h : Absent word a b) :
    findFirst? word (a ++ b) = (findFirst? word b).map fun (before, rest) => (a ++ before, rest) := by
  induction a with
  | nil => exact Option.map_id'.symm
  | cons c a ih =>
      obtain ⟨hopening, hrest⟩ := h
      rw [List.cons_append, findFirst?, after?_eq_none hopening, ih hrest]
      cases findFirst? word b with
      | none => rfl
      | some found => rfl

theorem findFirst?_word {word : Text} (hword : word ≠ []) (rest : Text) :
    findFirst? word (word ++ rest) = some ([], rest) := by
  obtain ⟨w, word, rfl⟩ := List.exists_cons_of_ne_nil hword
  rw [List.cons_append, findFirst?, ← List.cons_append, after?_append]

theorem findLast?_append {word a b before rest : Text}
    (h : findLast? word b = some (before, rest)) :
    findLast? word (a ++ b) = some (a ++ before, rest) := by
  induction a with
  | nil => exact h
  | cons c a ih => rw [List.cons_append, findLast?, ih]; rfl

theorem findLast?_eq_none {word text : Text} (h : Absent word text []) :
    findLast? word text = none := by
  induction text with
  | nil => rfl
  | cons c text ih =>
      obtain ⟨hopening, hrest⟩ := h
      rw [List.append_nil] at hopening
      rw [findLast?, ih hrest, after?_eq_none hopening]
      rfl

/-- A word that does not begin again inside itself is found where it stands last. -/
theorem findLast?_word {w : Letter} {word rest : Text} (hword : isAbsent (w :: word) word = true)
    (hrest : Absent (w :: word) rest []) :
    findLast? (w :: word) (w :: word ++ rest) = some ([], rest) := by
  have hnone : findLast? (w :: word) (word ++ rest) = none :=
    findLast?_eq_none (absent_append.mpr ⟨absent_of_isAbsent hword _, hrest⟩)
  rw [List.cons_append, findLast?, hnone, ← List.cons_append, after?_append]
  rfl

/-! Cutting. -/

theorem Vocabulary.opening?_eq_none_iff {words : Vocabulary α} {text : Text} :
    words.opening? text = none ↔ ∀ mark ∈ words, ¬ mark.2 <+: text := by
  simp [Vocabulary.opening?, List.find?_eq_none, List.isPrefixOf_iff_prefix]

theorem Vocabulary.opening?_congr {words : Vocabulary α} {text other : Text}
    (h : ∀ mark ∈ words, mark.2 <+: text ↔ mark.2 <+: other) :
    words.opening? text = words.opening? other := by
  induction words with
  | nil => rfl
  | cons mark words ih =>
      obtain ⟨hmark, hwords⟩ := List.forall_mem_cons.mp h
      have heq : mark.2.isPrefixOf text = mark.2.isPrefixOf other := by
        rw [Bool.eq_iff_iff, List.isPrefixOf_iff_prefix, List.isPrefixOf_iff_prefix, hmark]
      rw [opening?, opening?, List.find?_cons, List.find?_cons, heq]
      cases mark.2.isPrefixOf other with
      | true => rfl
      | false => exact ih hwords

theorem cut_cons {words : Vocabulary α} {c : Letter} {text : Text}
    (h : words.opening? (c :: text) = none) :
    cut words (c :: text) = (cut words text).letter c := by
  rw [cut, cutFrom, h]
  rfl

theorem Cut.letter_eq_iff {cut : Cut α} {c : Letter} {head : Text} {marks : List (α × Text)} :
    cut.letter c = ⟨head, marks⟩ ↔ ∃ rest, head = c :: rest ∧ cut = ⟨rest, marks⟩ := by
  constructor
  · intro h
    cases h
    exact ⟨cut.head, rfl, rfl⟩
  · rintro ⟨rest, rfl, rfl⟩
    rfl

theorem cut_word {words : Vocabulary α} {a : α} {word rest : Text} (hword : word ≠ [])
    (h : words.opening? (word ++ rest) = some (a, word)) :
    cut words (word ++ rest) = (cut words rest).mark a := by
  obtain ⟨w, word, rfl⟩ := List.exists_cons_of_ne_nil hword
  rw [List.cons_append] at h
  rw [cut, List.cons_append, cutFrom, h]
  show (cutFrom words ((w :: word).length - 1) (word ++ rest)).mark a = _
  rw [cutFrom_drop, List.length_cons, Nat.add_sub_cancel, List.drop_left]

def Cut.after (stretch : Text) (cut : Cut α) : Cut α :=
  { cut with head := stretch ++ cut.head }

theorem cut_append {words : Vocabulary α} {a b : Text}
    (h : ∀ mark ∈ words, Absent mark.2 a b) :
    cut words (a ++ b) = (cut words b).after a := by
  induction a with
  | nil => rfl
  | cons c a ih =>
      have hopening : words.opening? (c :: (a ++ b)) = none :=
        Vocabulary.opening?_eq_none_iff.mpr fun mark hmark => (h mark hmark).1
      rw [List.cons_append, cut_cons hopening, ih fun mark hmark => (h mark hmark).2]
      rfl

theorem cut_head_opens (words : Vocabulary α) (text : Text) :
    (cut words text).head <+: text := by
  induction text with
  | nil => exact List.nil_prefix
  | cons c text ih =>
      cases h : words.opening? (c :: text) with
      | none =>
          rw [cut_cons h]
          exact (List.prefix_cons_inj c).mpr ih
      | some mark =>
          rw [cut, cutFrom, h]
          exact List.nil_prefix

/-- The first stretch of a cut that has a mark, the word of that mark and the cut of the rest. -/
theorem exists_of_cut_eq_cons {words : Vocabulary α} (hwords : ∀ mark ∈ words, mark.2 ≠ [])
    {text head stretch : Text} {a : α} {marks : List (α × Text)}
    (h : cut words text = ⟨head, (a, stretch) :: marks⟩) :
    ∃ word rest, (a, word) ∈ words ∧ text = head ++ (word ++ rest) ∧
      cut words rest = ⟨stretch, marks⟩ ∧ ∀ mark ∈ words, Absent mark.2 head (word ++ rest) := by
  induction text generalizing head with
  | nil => cases h
  | cons c text ih =>
      cases hopening : words.opening? (c :: text) with
      | none =>
          rw [cut_cons hopening, Cut.letter_eq_iff] at h
          obtain ⟨head, rfl, hhead⟩ := h
          obtain ⟨word, rest, hmem, htext, hcut, habsent⟩ := ih hhead
          refine ⟨word, rest, hmem, congrArg (c :: ·) htext, hcut, ?_⟩
          intro mark hmark
          refine ⟨?_, habsent mark hmark⟩
          rw [← htext]
          exact Vocabulary.opening?_eq_none_iff.mp hopening mark hmark
      | some mark =>
          obtain ⟨b, word⟩ := mark
          obtain ⟨hmem, rest, hrest⟩ := Vocabulary.opening?_eq_some hopening
          rw [hrest] at hopening h ⊢
          rw [cut_word (hwords _ hmem) hopening, Cut.mark, Cut.mk.injEq, List.cons.injEq,
            Prod.mk.injEq] at h
          obtain ⟨rfl, ⟨rfl, rfl⟩, rfl⟩ := h
          exact ⟨word, rest, hmem, rfl, rfl, fun _ _ => trivial⟩

theorem absent_of_cut_eq_nil {words : Vocabulary α} {text head : Text}
    (h : cut words text = ⟨head, []⟩) :
    text = head ∧ ∀ mark ∈ words, Absent mark.2 text [] := by
  induction text generalizing head with
  | nil =>
      rw [cut, cutFrom_nil, Cut.mk.injEq] at h
      exact ⟨h.1, fun _ _ => trivial⟩
  | cons c text ih =>
      cases hopening : words.opening? (c :: text) with
      | none =>
          rw [cut_cons hopening, Cut.letter_eq_iff] at h
          obtain ⟨head, rfl, hhead⟩ := h
          obtain ⟨htext, habsent⟩ := ih hhead
          refine ⟨congrArg (c :: ·) htext, ?_⟩
          intro mark hmark
          refine ⟨?_, habsent mark hmark⟩
          rw [List.append_nil]
          exact Vocabulary.opening?_eq_none_iff.mp hopening mark hmark
      | some mark =>
          rw [cut, cutFrom, hopening] at h
          exact absurd (congrArg Cut.marks h) (List.cons_ne_nil _ _)

/-!
A text put together from pieces: where no word stands inside a piece, and none can run on from a
piece into the word that follows it, the words put in are the only ones there are.
-/

/-- At how many places of a text a word begins. -/
def occurrences (word : Text) : Text → Nat
  | [] => 0
  | c :: text => (if word <+: c :: text then 1 else 0) + occurrences word text

theorem isAbsent_of_append {word a b : Text} (h : isAbsent word (a ++ b) = true) :
    isAbsent word b = true := by
  induction a with
  | nil => exact h
  | cons c a ih =>
      rw [List.cons_append, isAbsent, Bool.and_eq_true] at h
      exact ih h.2

theorem not_infix_of_cons {word text : Text} {c : Letter} (h : ¬ word <:+: c :: text) :
    ¬ word <:+: text :=
  fun hwithin => h (hwithin.trans (List.suffix_cons c text).isInfix)

theorem absent_of_not_infix {word text : Text} (h : ¬ word <:+: text) : Absent word text [] := by
  induction text with
  | nil => trivial
  | cons c text ih =>
      refine ⟨?_, ih (not_infix_of_cons h)⟩
      rw [List.append_nil]
      exact fun hopens => h hopens.isInfix

/-- A word that begins before a mark ends before it, if the mark does not begin again inside the
word. -/
theorem prefix_of_prefix_mark {word text mark rest : Text} (hseam : isAbsent mark word.tail = true)
    (htext : text ≠ []) (h : word <+: text ++ (mark ++ rest)) : word <+: text := by
  cases List.prefix_or_prefix_of_prefix h (List.prefix_append text (mark ++ rest)) with
  | inl hinside => exact hinside
  | inr hacross =>
      obtain ⟨c, text, rfl⟩ := List.exists_cons_of_ne_nil htext
      obtain ⟨remainder, rfl⟩ := hacross
      have hremainder : remainder <+: mark ++ rest := by
        rw [List.prefix_append_right_inj] at h
        exact h
      have habsent : isAbsent mark remainder = true := isAbsent_of_append hseam
      cases remainder with
      | nil => simp
      | cons r remainder =>
          simp only [isAbsent, Bool.and_eq_true, Bool.not_eq_true', ← Bool.not_eq_true,
            List.isPrefixOf_iff_prefix] at habsent
          obtain ⟨⟨hlonger, hshorter⟩, _⟩ := habsent
          cases List.prefix_or_prefix_of_prefix hremainder (List.prefix_append mark rest) with
          | inl hprefix => exact absurd hprefix hshorter
          | inr hprefix => exact absurd hprefix hlonger

/-- No part of a mark runs on from a piece into the next mark, as the mark does not begin again
inside a word. -/
theorem absent_before_mark {word text mark : Text} (h : ¬ word <:+: text)
    (hseam : isAbsent mark word.tail = true) (rest : Text) : Absent word text (mark ++ rest) := by
  induction text with
  | nil => trivial
  | cons c text ih =>
      refine ⟨?_, ih (not_infix_of_cons h)⟩
      exact fun hopens => h (prefix_of_prefix_mark hseam (List.cons_ne_nil c text) hopens).isInfix

theorem not_infix_of_absent {word text following : Text} (hword : word ≠ [])
    (h : Absent word text following) : ¬ word <:+: text := by
  rintro ⟨before, after, rfl⟩
  obtain ⟨w, word, rfl⟩ := List.exists_cons_of_ne_nil hword
  rw [List.append_assoc, absent_append] at h
  have hopens : w :: word <+: w :: word ++ (after ++ following) := List.prefix_append _ _
  rw [← List.append_assoc] at hopens
  exact h.2.1 hopens

theorem not_prefix_drop_of_absent {word text following : Text} (h : Absent word text following)
    {position : Nat} (hposition : position < text.length) :
    ¬ word <+: (text ++ following).drop position := by
  induction text generalizing position with
  | nil => exact absurd hposition (Nat.not_lt_zero position)
  | cons c text ih =>
      cases position with
      | zero => exact h.1
      | succ position => exact ih h.2 (Nat.lt_of_succ_lt_succ hposition)

/-! Counting. -/

theorem occurrences_append {word a b : Text} (h : Absent word a b) :
    occurrences word (a ++ b) = occurrences word b := by
  induction a with
  | nil => rfl
  | cons c a ih =>
      obtain ⟨hopening, hrest⟩ := h
      rw [List.cons_append, occurrences, if_neg hopening, ih hrest, Nat.zero_add]

theorem occurrences_eq_zero {word text : Text} (h : Absent word text []) :
    occurrences word text = 0 := by
  have hcount := occurrences_append h
  rwa [List.append_nil] at hcount

theorem occurrences_word {w : Letter} {word : Text} (hword : isAbsent (w :: word) word = true)
    (rest : Text) : occurrences (w :: word) (w :: word ++ rest) = 1 + occurrences (w :: word) rest := by
  have hopens : w :: word <+: w :: (word ++ rest) := List.prefix_append (w :: word) rest
  rw [List.cons_append, occurrences, if_pos hopens,
    occurrences_append (absent_of_isAbsent hword rest)]

end ReleaseNotes.Text
