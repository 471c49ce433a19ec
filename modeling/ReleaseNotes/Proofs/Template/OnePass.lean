import ReleaseNotes.Proofs.Template.Filling

namespace ReleaseNotes.Template

/-!
Filling in one field after the other comes to one pass over the text. The second replacement sees
what the first one put in, but a date opens no field, ends none and is never empty, so nothing that
was put in is looked at again.
-/

def Field.value (version : Text) (date : Date) : Field → Text
  | .date => date.text
  | .version => version

/-- The field that a text opens with. -/
def opening? (text : Text) : Option Field :=
  [Field.date, Field.version].find? fun field => field.text.isPrefixOf text

/-- The number counts the letters that still belong to the field just filled in. -/
def fillOnceFrom (version : Text) (date : Date) : Nat → Text → Text
  | _, [] => []
  | skip + 1, _ :: text => fillOnceFrom version date skip text
  | 0, c :: text =>
      match opening? (c :: text) with
      | some field =>
          field.value version date ++ fillOnceFrom version date (field.text.length - 1) text
      | none => c :: fillOnceFrom version date 0 text

/-- Copies a text from left to right, with its value in place of every field. -/
def fillOnce (version : Text) (date : Date) (text : Text) : Text :=
  fillOnceFrom version date 0 text

variable {version : Text} {date : Date}

theorem fillOnceFrom_drop (skip : Nat) (text : Text) :
    fillOnceFrom version date skip text = fillOnce version date (text.drop skip) := by
  induction text generalizing skip with
  | nil => cases skip <;> rfl
  | cons c text ih =>
      cases skip with
      | zero => rfl
      | succ skip => rw [fillOnceFrom, ih, List.drop_succ_cons]

theorem Field.text_ne_nil (field : Field) : field.text ≠ [] := by
  cases field <;> decide

/-- Neither field begins inside the other, nor again inside itself. -/
theorem Field.isAbsent_tail (field other : Field) :
    Text.isAbsent field.text other.text.tail = true := by
  cases field <;> cases other <;> decide

theorem opening?_field (field : Field) (rest : Text) : opening? (field.text ++ rest) = some field := by
  cases field <;> rfl

theorem opening?_eq_none {text : Text} (h : ∀ field : Field, ¬ field.text <+: text) :
    opening? text = none := by
  apply List.find?_eq_none.mpr
  intro field _ hopens
  exact h field (List.isPrefixOf_iff_prefix.mp hopens)

theorem fillOnce_field (field : Field) (rest : Text) :
    fillOnce version date (field.text ++ rest) =
      field.value version date ++ fillOnce version date rest := by
  have hopening := opening?_field field rest
  obtain ⟨c, word, hword⟩ := List.exists_cons_of_ne_nil field.text_ne_nil
  rw [hword, List.cons_append] at hopening ⊢
  rw [fillOnce, fillOnceFrom, hopening]
  show _ ++ fillOnceFrom version date (field.text.length - 1) (word ++ rest) = _
  rw [fillOnceFrom_drop, hword, List.length_cons, Nat.add_sub_cancel, List.drop_left]

theorem fillOnce_cons {c : Letter} {text : Text} (h : ∀ field : Field, ¬ field.text <+: c :: text) :
    fillOnce version date (c :: text) = c :: fillOnce version date text := by
  rw [fillOnce, fillOnceFrom, opening?_eq_none h]
  rfl

/-! The same steps, one field after the other. -/

theorem fillFields_date (rest : Text) :
    fillFields version date (Field.date.text ++ rest) = date.text ++ fillFields version date rest := by
  have hbrace : Letter.char '\x7b' ∉ date.text := (harmless_date date).no_brace
  have habsent : Text.Absent Field.version.text date.text
      (Text.replaceAll Field.date.text date.text rest) :=
    Text.absent_of_isAbsent (Text.isAbsent_of_not_mem hbrace) _
  rw [fillFields, Text.replaceAll_word Field.date.text_ne_nil, Text.replaceAll_append habsent]
  rfl

theorem fillFields_version (rest : Text) :
    fillFields version date (Field.version.text ++ rest) = version ++ fillFields version date rest := by
  have habsent : Text.Absent Field.date.text Field.version.text rest :=
    Text.absent_of_isAbsent (by decide) rest
  rw [fillFields, Text.replaceAll_append habsent, Text.replaceAll_word Field.version.text_ne_nil]
  rfl

theorem fillFields_field (field : Field) (rest : Text) :
    fillFields version date (field.text ++ rest) =
      field.value version date ++ fillFields version date rest := by
  cases field with
  | date => exact fillFields_date rest
  | version => exact fillFields_version rest

/-- No date can be the middle of a version field: it begins with a letter that the field has not. -/
theorem not_version_prefix_dated {text : Text} (h : ¬ Field.version.text <+: text) :
    ¬ Field.version.text <+: Text.replaceAll Field.date.text date.text text := by
  obtain ⟨first, rest, hdate⟩ := List.exists_cons_of_ne_nil date.text_ne_nil
  have hfirst : first ∉ Field.version.text := by
    intro hmem
    have hletters : ∀ letter ∈ Field.version.text, letter.isDigit = false ∧ letter ≠ '/' := by decide
    exact Date.not_mem_text (hletters first hmem) (hdate ▸ List.mem_cons_self)
  rw [hdate]
  exact fun hopens => h (Text.prefix_of_prefix_replaceAll Field.date.text_ne_nil hfirst hopens)

theorem fillFields_cons {c : Letter} {text : Text}
    (h : ∀ field : Field, ¬ field.text <+: c :: text) :
    fillFields version date (c :: text) = c :: fillFields version date text := by
  have hdated : Text.replaceAll Field.date.text date.text (c :: text) =
      c :: Text.replaceAll Field.date.text date.text text := Text.replaceAll_cons (h .date)
  have hversion : ¬ Field.version.text <+: c :: Text.replaceAll Field.date.text date.text text := by
    rw [← hdated]
    exact not_version_prefix_dated (h .version)
  rw [fillFields, hdated, Text.replaceAll_cons hversion]
  rfl

/-- A text is empty, or it opens with a field, or with a letter at which no field begins. -/
@[elab_as_elim]
theorem fieldwise {motive : Text → Prop} (nil : motive [])
    (field : ∀ (field : Field) (rest : Text), motive rest → motive (field.text ++ rest))
    (letter : ∀ (c : Letter) (text : Text), (∀ field : Field, ¬ field.text <+: c :: text) →
      motive text → motive (c :: text)) (text : Text) : motive text := by
  induction hlength : text.length using Nat.strongRecOn generalizing text with
  | _ length ih =>
    by_cases hopens : ∃ field : Field, field.text <+: text
    · obtain ⟨found, rest, rfl⟩ := hopens
      have hshort : rest.length < length := by
        have := List.length_pos_iff.mpr found.text_ne_nil
        rw [← hlength, List.length_append]
        omega
      exact field found rest (ih _ hshort rest rfl)
    · cases text with
      | nil => exact nil
      | cons c text =>
          have hshort : text.length < length := by
            rw [← hlength, List.length_cons]
            omega
          exact letter c text (not_exists.mp hopens) (ih _ hshort text rfl)

theorem fillFields_eq (version : Text) (date : Date) (text : Text) :
    fillFields version date text = fillOnce version date text := by
  induction text using fieldwise with
  | nil => rfl
  | field field rest ih => rw [fillFields_field, fillOnce_field, ih]
  | letter c text h ih => rw [fillFields_cons h, fillOnce_cons h, ih]

/-- Where a field stands, it is filled in, and what is around it is filled in for itself. -/
theorem fillFields_append_field (version : Text) (date : Date) (before : Text) (field : Field)
    (rest : Text) :
    fillFields version date (before ++ (field.text ++ rest)) =
      fillFields version date before ++
        (field.value version date ++ fillFields version date rest) := by
  induction before using fieldwise with
  | nil => exact fillFields_field field rest
  | field other before ih =>
      rw [List.append_assoc, fillFields_field, ih, fillFields_field, List.append_assoc]
  | letter c before h ih =>
      have hopens : ∀ other : Field, ¬ other.text <+: c :: (before ++ (field.text ++ rest)) :=
        fun other hprefix => h other
          (Text.prefix_of_prefix_mark (Field.isAbsent_tail field other) (List.cons_ne_nil c before)
            hprefix)
      rw [List.cons_append, fillFields_cons hopens, ih, fillFields_cons h, List.cons_append]

/-- Filling in one field after the other is the one pass over the text, whatever the version holds:
each field of the text is filled in and nothing that is put in is looked at again. -/
theorem fillFields_eq_fillOnce (version : Text) (date : Date) :
    (∀ text, fillFields version date text = fillOnce version date text) ∧
      ∀ (before : Text) (field : Field) (rest : Text),
        fillFields version date (before ++ (field.text ++ rest)) =
          fillFields version date before ++
            (field.value version date ++ fillFields version date rest) :=
  ⟨fillFields_eq version date, fillFields_append_field version date⟩

/-- A date inside a version field, and a version that is a field itself. -/
example :
    fillFields "\x7b\x7bdate\x7d\x7d".text ⟨2024, 3, 5, by decide, by decide, by decide⟩
        "\x7b\x7bversion\x7b\x7bdate\x7d\x7dName\x7d\x7d \x7b\x7bversionName\x7d\x7d".text =
      "\x7b\x7bversion3/5/2024Name\x7d\x7d \x7b\x7bdate\x7d\x7d".text := by
  decide +kernel

end ReleaseNotes.Template
