import ReleaseNotes.Proofs.Text.Occurrence

namespace ReleaseNotes.Text

/-! Replacing every occurrence of a word, first on its own and then next to a cut. -/

theorem replaceAll_append {word value a b : Text} (h : Absent word a b) :
    replaceAll word value (a ++ b) = a ++ replaceAll word value b := by
  have hcut : cut [((), word)] (a ++ b) = (cut [((), word)] b).after a :=
    cut_append fun mark hmark => by
      rw [List.mem_singleton] at hmark
      exact hmark ▸ h
  rw [replaceAll, hcut, Cut.after, Cut.fill, List.append_assoc]
  rfl

theorem replaceAll_cons {word value : Text} {c : Letter} {text : Text}
    (h : ¬ word <+: c :: text) :
    replaceAll word value (c :: text) = c :: replaceAll word value text :=
  replaceAll_append (a := [c]) ⟨h, trivial⟩

theorem replaceAll_word {word : Text} (hword : word ≠ []) (value rest : Text) :
    replaceAll word value (word ++ rest) = value ++ replaceAll word value rest := by
  have hopening : Vocabulary.opening? [((), word)] (word ++ rest) = some ((), word) :=
    List.find?_cons_of_pos (List.isPrefixOf_iff_prefix.mpr (List.prefix_append word rest))
  rw [replaceAll, cut_word hword hopening, Cut.fill_mark]
  rfl

theorem replaceAll_of_not_mem {w : Letter} {word value text : Text} (h : w ∉ text) :
    replaceAll (w :: word) value text = text := by
  have habsent : Absent (w :: word) text [] := absent_of_isAbsent (isAbsent_of_not_mem h) []
  have hreplace : replaceAll (w :: word) value (text ++ []) = text ++ [] := replaceAll_append habsent
  rwa [List.append_nil] at hreplace

/-- A text whose letters open no value was there before any value was put in. -/
theorem prefix_of_prefix_replaceAll {word value text opening : Text} {v : Letter}
    (hword : word ≠ []) (hv : v ∉ opening) (h : opening <+: replaceAll word (v :: value) text) :
    opening <+: text := by
  induction opening generalizing text with
  | nil => exact List.nil_prefix
  | cons c opening ih =>
      rw [List.mem_cons, not_or] at hv
      by_cases hstart : word <+: text
      · obtain ⟨rest, rfl⟩ := hstart
        rw [replaceAll_word hword, List.cons_append, List.cons_prefix_cons] at h
        exact absurd h.1.symm hv.1
      · cases text with
        | nil => exact h
        | cons d text =>
            rw [replaceAll_cons hstart, List.cons_prefix_cons] at h
            exact List.cons_prefix_cons.mpr ⟨h.1, ih hv.2 h.2⟩

/-!
A word and a value that keep out of the way of a vocabulary: neither the word nor any mark begins
inside the other, no mark begins inside the value, and the value begins with a letter of no mark.
Replacing the word by the value then moves the marks and neither makes nor breaks one.
-/

structure Vocabulary.Ignores (words : Vocabulary α) (word value : Text) : Prop where
  marks_ne_nil : ∀ mark ∈ words, mark.2 ≠ []
  word_ne_nil : word ≠ []
  word_absent : ∀ mark ∈ words, isAbsent word mark.2 = true
  absent_word : ∀ mark ∈ words, isAbsent mark.2 word = true
  absent_value : ∀ mark ∈ words, isAbsent mark.2 value = true
  value_opening : ∃ v rest, value = v :: rest ∧ ∀ mark ∈ words, v ∉ mark.2

namespace Vocabulary.Ignores

variable {words : Vocabulary α} {word value : Text}

theorem mark_prefix_iff (h : words.Ignores word value) {mark : α × Text} (hmark : mark ∈ words)
    (text : Text) : mark.2 <+: replaceAll word value text ↔ mark.2 <+: text := by
  constructor
  · obtain ⟨v, rest, rfl, hv⟩ := h.value_opening
    exact prefix_of_prefix_replaceAll h.word_ne_nil (hv mark hmark)
  · rintro ⟨rest, rfl⟩
    rw [replaceAll_append (absent_of_isAbsent (h.word_absent mark hmark) rest)]
    exact List.prefix_append _ _

theorem opening?_replaceAll (h : words.Ignores word value) (text : Text) :
    words.opening? (replaceAll word value text) = words.opening? text :=
  Vocabulary.opening?_congr fun _ hmark => h.mark_prefix_iff hmark text

end Vocabulary.Ignores

def Cut.mapStretches (f : Text → Text) (cut : Cut α) : Cut α :=
  ⟨f cut.head, cut.marks.map fun (a, stretch) => (a, f stretch)⟩

/-- Cutting after a replacement is replacing in every stretch of the cut. -/
theorem cut_replaceAll {words : Vocabulary α} {word value : Text} (h : words.Ignores word value)
    (text : Text) :
    cut words (replaceAll word value text) =
      (cut words text).mapStretches (replaceAll word value) := by
  induction hlength : text.length using Nat.strongRecOn generalizing text with
  | _ length ih =>
    cases hopening : words.opening? text with
    | some mark =>
        obtain ⟨a, mark⟩ := mark
        obtain ⟨hmem, rest, rfl⟩ := Vocabulary.opening?_eq_some hopening
        have hmark : mark ≠ [] := h.marks_ne_nil _ hmem
        have hreplaced : replaceAll word value (mark ++ rest) = mark ++ replaceAll word value rest :=
          replaceAll_append (absent_of_isAbsent (h.word_absent _ hmem) rest)
        have hopened : words.opening? (mark ++ replaceAll word value rest) = some (a, mark) := by
          rw [← hreplaced, h.opening?_replaceAll, hopening]
        have hshort : rest.length < length := by
          have := List.length_pos_iff.mpr hmark
          rw [← hlength, List.length_append]
          omega
        rw [hreplaced, cut_word hmark hopened, cut_word hmark hopening, ih _ hshort rest rfl]
        rfl
    | none =>
        by_cases hstart : word <+: text
        · obtain ⟨rest, rfl⟩ := hstart
          have hshort : rest.length < length := by
            have := List.length_pos_iff.mpr h.word_ne_nil
            rw [← hlength, List.length_append]
            omega
          have hvalue : cut words (value ++ replaceAll word value rest) =
              (cut words (replaceAll word value rest)).after value :=
            cut_append fun mark hmark => absent_of_isAbsent (h.absent_value mark hmark) _
          have hword : cut words (word ++ rest) = (cut words rest).after word :=
            cut_append fun mark hmark => absent_of_isAbsent (h.absent_word mark hmark) _
          rw [replaceAll_word h.word_ne_nil, hvalue, hword, ih _ hshort rest rfl]
          simp only [Cut.after, Cut.mapStretches, replaceAll_word h.word_ne_nil]
        · cases text with
          | nil => rfl
          | cons c text =>
              have hreplaced : replaceAll word value (c :: text) = c :: replaceAll word value text :=
                replaceAll_cons hstart
              have hopened : words.opening? (c :: replaceAll word value text) = none := by
                rw [← hreplaced, h.opening?_replaceAll, hopening]
              have hhead : ¬ word <+: c :: (cut words text).head := fun hopens =>
                hstart (hopens.trans ((List.prefix_cons_inj c).mpr (cut_head_opens words text)))
              have hshort : text.length < length := by
                rw [← hlength, List.length_cons]
                omega
              rw [hreplaced, cut_cons hopened, cut_cons hopening, ih _ hshort text rfl]
              simp only [Cut.letter, Cut.mapStretches, replaceAll_cons hhead]

end ReleaseNotes.Text
