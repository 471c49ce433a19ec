import ReleaseNotes.Json.Basic
import ReleaseNotes.Template

namespace ReleaseNotes

/-! All that a release says apart from its date and the order of its sections. -/

structure Release where
  version : Text
  categories : Categories
  template : Template
  commits : List Commit

namespace Release

inductive Error where
  | categories (error : Categories.Error)
  | template (error : Template.Error)
  | notText (message : Json)
  | order (unknown : SectionOrder.Unknown)
  | unnamed (error : UnnamedType)

def Error.message : Error → Text
  | .categories error => error.message
  | .template error => error.message
  | .notText value =>
      "expected string or bytes-like object, got '".text ++ value.kindName ++ "\x27".text
  | .order unknown => unknown.message
  | .unnamed error => error.message

/-- Messages that are no commits of a known type are passed over; one that is no text is an
error. -/
def readMessages (categories : Categories) : List Json → Except Error (List Commit)
  | [] => .ok []
  | .string message :: messages =>
      match Commit.read categories.contains message with
      | none => readMessages categories messages
      | some commit => (readMessages categories messages).map (commit :: ·)
  | value :: _ => .error (.notText value)

structure Draft where
  version : Text
  messages : List Json
  mapping : Text
  template : Text

/-- The mapping is looked at first, then the template, then the messages. -/
def ofDraft (draft : Draft) : Except Error Release :=
  match Categories.parse draft.mapping with
  | .error error => .error (.categories error)
  | .ok categories =>
      match Template.read draft.template with
      | .error error => .error (.template error)
      | .ok template =>
          match readMessages categories draft.messages with
          | .error error => .error error
          | .ok commits => .ok ⟨draft.version, categories, template, commits⟩

def render (release : Release) (order : SectionOrder) (date : Date) : Except Error Text :=
  match release.template.render release.version date
      (Groups.ordered order release.categories release.commits) release.categories with
  | .error error => .error (.unnamed error)
  | .ok text => .ok text

def generate (draft : Draft) (order : SectionOrder) (date : Date) : Except Error Text :=
  match ofDraft draft with
  | .error error => .error error
  | .ok release => release.render order date

/-- An order that is given by name is only looked up once the messages are read. -/
def generateNamed (draft : Draft) (order : Option Text) (date : Date) : Except Error Text :=
  match ofDraft draft with
  | .error error => .error error
  | .ok release =>
      match SectionOrder.named order with
      | .error unknown => .error (.order unknown)
      | .ok order => release.render order date

/-- The names under which a release may already be tagged. -/
def tagNames (version : Text) : List Text :=
  match version with
  | .char 'v' :: _ => [version]
  | _ => [version, Letter.char 'v' :: version]

/-! What the log says while a draft becomes a release. -/

def categoriesLog (categories : Categories) : List LogLine :=
  let fields := categories.entries.map fun (type, name) => (type, Json.string name)
  [⟨.debug, "Parsed ".text ++ Text.ofNat fields.length ++ " commit categories: ".text ++
    (Json.object fields).inspect⟩]

def templateLog (template : Template) : List LogLine :=
  template.warnings.map fun warning => ⟨.warning, warning⟩

def skipLog (message : Text) : LogLine :=
  ⟨.debug, "Skipping commit: ".text ++ Text.quoted (Text.firstLine message)⟩

/-- The counts of commits read and passed over close the log, unless a message is no text. -/
def messagesLog (categories : Categories) (kept skipped : Nat) : List Json → List LogLine
  | [] =>
      [⟨.debug, "Classified ".text ++ Text.ofNat kept ++ " commit(s), skipped ".text ++
        Text.ofNat skipped⟩]
  | .string message :: messages =>
      match Commit.read categories.contains message with
      | none => skipLog message :: messagesLog categories kept (skipped + 1) messages
      | some _ => messagesLog categories (kept + 1) skipped messages
  | _ :: _ => []

def log (draft : Draft) : List LogLine :=
  ⟨.info, "Retrieving changelog mapping".text⟩ ::
    match Categories.parse draft.mapping with
    | .error _ => []
    | .ok categories =>
        categoriesLog categories ++
          match Template.read draft.template with
          | .error _ => []
          | .ok template =>
              templateLog template ++
                ⟨.info, "Creating changelog for version ".text ++ draft.version⟩ ::
                  messagesLog categories 0 0 draft.messages

end Release

end ReleaseNotes
