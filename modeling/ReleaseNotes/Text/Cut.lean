import ReleaseNotes.Text.Basic

namespace ReleaseNotes.Text

/-!
A text is cut at the words of a vocabulary, leftmost first and without overlap. The cut keeps
everything: the stretch before the first word, and each word with the stretch that follows it.
-/

structure Cut (α : Type) where
  head : Text
  marks : List (α × Text)
deriving DecidableEq

abbrev Vocabulary (α : Type) := List (α × Text)

namespace Vocabulary

def opening? (words : Vocabulary α) (text : Text) : Option (α × Text) :=
  words.find? fun word => word.2.isPrefixOf text

end Vocabulary

namespace Cut

def letter (c : Letter) (cut : Cut α) : Cut α :=
  { cut with head := c :: cut.head }

def mark (a : α) (cut : Cut α) : Cut α :=
  ⟨[], (a, cut.head) :: cut.marks⟩

def fill (value : α → Text) (cut : Cut α) : Text :=
  cut.head ++ cut.marks.flatMap fun (a, stretch) => value a ++ stretch

end Cut

/-- The first argument counts the characters that still belong to the word just found. -/
def cutFrom (words : Vocabulary α) : Nat → Text → Cut α
  | _, [] => ⟨[], []⟩
  | skip + 1, _ :: text => cutFrom words skip text
  | 0, c :: text =>
      match words.opening? (c :: text) with
      | some (a, word) => (cutFrom words (word.length - 1) text).mark a
      | none => (cutFrom words 0 text).letter c

def cut (words : Vocabulary α) (text : Text) : Cut α :=
  cutFrom words 0 text

def replaceAll (word value text : Text) : Text :=
  (cut [((), word)] text).fill fun _ => value

@[simp] theorem Cut.fill_letter (value : α → Text) (c : Letter) (cut : Cut α) :
    (cut.letter c).fill value = c :: cut.fill value := rfl

@[simp] theorem Cut.fill_mark (value : α → Text) (a : α) (cut : Cut α) :
    (cut.mark a).fill value = value a ++ cut.fill value := by
  simp [Cut.fill, Cut.mark]

@[simp] theorem cutFrom_nil (words : Vocabulary α) (skip : Nat) :
    cutFrom words skip [] = ⟨[], []⟩ := by
  cases skip <;> rfl

theorem cutFrom_drop (words : Vocabulary α) (skip : Nat) (text : Text) :
    cutFrom words skip text = cut words (text.drop skip) := by
  induction text generalizing skip with
  | nil => simp [cut]
  | cons c text ih =>
      cases skip with
      | zero => rfl
      | succ skip => rw [cutFrom, ih, List.drop_succ_cons]

theorem Vocabulary.opening?_eq_some {words : Vocabulary α} {text : Text} {a : α} {word : Text}
    (h : words.opening? text = some (a, word)) :
    (a, word) ∈ words ∧ ∃ rest, text = word ++ rest := by
  obtain ⟨hopens, hmem⟩ := And.intro (List.find?_some h) (List.mem_of_find?_eq_some h)
  obtain ⟨rest, hrest⟩ := List.isPrefixOf_iff_prefix.mp hopens
  exact ⟨hmem, rest, hrest.symm⟩

/-- A cut that is filled with the words it was cut at is the text again. -/
theorem fill_cut {words : Vocabulary α} {value : α → Text}
    (hwords : ∀ a word, (a, word) ∈ words → word ≠ [] ∧ value a = word) (text : Text) :
    (cut words text).fill value = text := by
  induction hlength : text.length using Nat.strongRecOn generalizing text with
  | _ length ih =>
    cases text with
    | nil => simp [cut, Cut.fill]
    | cons c text =>
        rw [cut, cutFrom]
        split
        · rename_i a word hopening
          obtain ⟨hmem, rest, hrest⟩ := Vocabulary.opening?_eq_some hopening
          obtain ⟨hne, hvalue⟩ := hwords a word hmem
          obtain ⟨w, word, rfl⟩ := List.exists_cons_of_ne_nil hne
          obtain ⟨rfl, rfl⟩ := List.cons.inj hrest
          have hdrop : List.drop ((c :: word).length - 1) (word.append rest) = rest :=
            List.drop_left
          have hshort : rest.length < length := by
            rw [← hlength, List.length_cons,
              show (word.append rest).length = word.length + rest.length from List.length_append]
            omega
          rw [Cut.fill_mark, cutFrom_drop, hvalue, hdrop, ih rest.length hshort rest rfl]
          rfl
        · rw [Cut.fill_letter]
          have hshort : text.length < length := by
            rw [← hlength, List.length_cons]
            omega
          exact congrArg (c :: ·) (ih text.length hshort text rfl)

end ReleaseNotes.Text
