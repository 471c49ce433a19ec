import ReleaseNotes.Proofs.Commit.Grouping
import ReleaseNotes.Proofs.Template.Filling
import ReleaseNotes.Release

namespace ReleaseNotes.Release

/-!
A release always has notes: every type under which one of its commits stands has a name. So what can
go wrong with a draft goes wrong before there is a release, in its mapping or in its template.
-/

/-! The commits of a release. -/

def classified (categories : Categories) (messages : List Text) : List Commit :=
  messages.filterMap (Commit.read categories.contains)

theorem readMessages_strings (categories : Categories) (messages : List Text) :
    readMessages categories (messages.map .string) = .ok (classified categories messages) := by
  induction messages with
  | nil => rfl
  | cons message messages ih =>
      rw [List.map_cons, readMessages, classified, List.filterMap_cons]
      cases Commit.read categories.contains message with
      | none => exact ih
      | some commit =>
          simp only [ih, Except.map]
          rfl

theorem exists_of_mem_classified {categories : Categories} {messages : List Text}
    {commit : Commit} (h : commit ∈ classified categories messages) :
    ∃ message ∈ messages, Commit.read categories.contains message = some commit :=
  List.mem_filterMap.mp h

theorem contains_of_mem_classified {categories : Categories} {messages : List Text}
    {commit : Commit} (h : commit ∈ classified categories messages) :
    categories.contains commit.type = true := by
  obtain ⟨message, _, hread⟩ := exists_of_mem_classified h
  exact (Option.filter_eq_some_iff.mp hread).2

theorem known_classified (categories : Categories) (messages : List Text) :
    Groups.known categories (classified categories messages) = classified categories messages :=
  List.filter_eq_self.mpr fun _ h => contains_of_mem_classified h

theorem readMessages_ne_unnamed (categories : Categories) (messages : List Json)
    (unnamed : UnnamedType) : readMessages categories messages ≠ .error (.unnamed unnamed) := by
  intro h
  induction messages with
  | nil => cases h
  | cons message messages ih =>
      unfold readMessages at h
      split at h
      · cases h
      · rename_i hmessages
        cases hmessages
        split at h
        · exact ih h
        · cases hrest : readMessages categories messages with
          | error error =>
              rw [hrest] at h
              cases h
              exact ih hrest
          | ok commits =>
              rw [hrest] at h
              cases h
      · cases h

/-! The notes of a release. -/

def notes (release : Release) (order : SectionOrder) (date : Date) : Text :=
  let fill := Template.fillFields release.version date
  fill release.template.head ++
    Text.strip (Template.body (fill release.template.heading) (fill release.template.line)
      (Groups.ordered order release.categories release.commits) release.categories) ++
    fill release.template.tail

theorem render_eq_ok (release : Release) (order : SectionOrder) (date : Date) :
    release.render order date = .ok (release.notes order date) := by
  have hnames : ∀ type ∈ (Groups.ordered order release.categories release.commits).keys,
      release.categories.contains type = true := fun _ => Groups.contains_of_mem_ordered
  rw [render, Template.render_eq_ok hnames]
  rfl

theorem generate_eq (draft : Draft) (order : SectionOrder) (date : Date) :
    generate draft order date = (ofDraft draft).map fun release => release.notes order date := by
  unfold generate
  cases ofDraft draft with
  | error error => rfl
  | ok release => exact render_eq_ok release order date

/-- An order that is given by its own name is that order. -/
theorem generateNamed_name (draft : Draft) (order : SectionOrder) (date : Date) :
    generateNamed draft (some order.name) date = generate draft order date := by
  have hnamed : SectionOrder.named (some order.name) = .ok order := by cases order <;> rfl
  unfold generateNamed generate
  cases ofDraft draft with
  | error error => rfl
  | ok release => simp only [hnamed]

theorem ofDraft_strings {mapping text : Text} {categories : Categories} {template : Template}
    (hmapping : Categories.parse mapping = .ok categories)
    (htemplate : Template.read text = .ok template) (version : Text) (messages : List Text) :
    ofDraft ⟨version, messages.map .string, mapping, text⟩ =
      .ok ⟨version, categories, template, classified categories messages⟩ := by
  simp only [ofDraft, hmapping, htemplate, readMessages_strings]

/-! What may be wrong with a draft. -/

theorem ofDraft_strings_eq_error_iff {version mapping text : Text} {messages : List Text}
    {error : Error} :
    ofDraft ⟨version, messages.map .string, mapping, text⟩ = .error error ↔
      (∃ fault, Categories.parse mapping = .error fault ∧ error = .categories fault) ∨
        ∃ categories fault, Categories.parse mapping = .ok categories ∧
          Template.read text = .error fault ∧ error = .template fault := by
  cases hmapping : Categories.parse mapping with
  | error fault => simp [ofDraft, hmapping, eq_comm]
  | ok categories =>
      cases htemplate : Template.read text with
      | error fault => simp [ofDraft, hmapping, htemplate, eq_comm]
      | ok template => simp [ofDraft_strings hmapping htemplate]

/-- Where every message is a text, only the mapping or the template can be at fault. -/
theorem generate_strings_eq_error {version mapping template : Text} {messages : List Text}
    {order : SectionOrder} {date : Date} {error : Error}
    (h : generate ⟨version, messages.map .string, mapping, template⟩ order date = .error error) :
    (∃ fault, error = .categories fault) ∨ ∃ fault, error = .template fault := by
  rw [generate_eq] at h
  cases hdraft : ofDraft ⟨version, messages.map .string, mapping, template⟩ with
  | ok release =>
      rw [hdraft] at h
      cases h
  | error reason =>
      rw [hdraft] at h
      cases h
      obtain ⟨fault, _, rfl⟩ | ⟨_, fault, _, _, rfl⟩ := ofDraft_strings_eq_error_iff.mp hdraft
      · exact .inl ⟨fault, rfl⟩
      · exact .inr ⟨fault, rfl⟩

theorem ofDraft_ne_unnamed (draft : Draft) (unnamed : UnnamedType) :
    ofDraft draft ≠ .error (.unnamed unnamed) := by
  intro h
  unfold ofDraft at h
  split at h
  · cases h
  · split at h
    · cases h
    · split at h
      · rename_i hmessages
        cases h
        exact readMessages_ne_unnamed _ _ unnamed hmessages
      · cases h

/-- A draft whose messages are texts fails exactly if its mapping cannot be read or, if it can, its
template cannot, and then with the error of that reading. Its version, messages, date and order have
no part in it, and never is a type without a name, whatever the messages are. -/
theorem generate_eq_error_iff (mapping template : Text) :
    (∀ (version : Text) (messages : List Text) (order : SectionOrder) (date : Date)
      (error : Error),
        generate ⟨version, messages.map .string, mapping, template⟩ order date = .error error ↔
          (∃ fault, Categories.parse mapping = .error fault ∧ error = .categories fault) ∨
            ∃ categories fault, Categories.parse mapping = .ok categories ∧
              Template.read template = .error fault ∧ error = .template fault) ∧
      ∀ (version : Text) (messages : List Json) (order : Option Text) (date : Date)
        (unnamed : UnnamedType),
          generateNamed ⟨version, messages, mapping, template⟩ order date ≠
            .error (.unnamed unnamed) := by
  constructor
  · intro version messages order date error
    rw [generate_eq, ← ofDraft_strings_eq_error_iff]
    cases ofDraft ⟨version, messages.map .string, mapping, template⟩ with
    | error fault => simp [Except.map]
    | ok release => simp [Except.map]
  · intro version messages order date unnamed h
    unfold generateNamed at h
    split at h
    · rename_i hdraft
      cases h
      exact ofDraft_ne_unnamed _ unnamed hdraft
    · split at h
      · cases h
      · rw [render_eq_ok] at h
        cases h

end ReleaseNotes.Release
