import ReleaseNotes.Files
import ReleaseNotes.Json.Reader

namespace ReleaseNotes

namespace Settings

/-!
The variables of a run are kept as bytes. Both sides of a variable need a form in bytes, which the
byte zero would end, and read back they are spelled with the fewest halves of surrogate pairs.
-/

abbrev Environment := List (Text × Text)

inductive VariableError where
  | unencodable (obstacle : Utf8.Obstacle)
  | nulInVariable
deriving DecidableEq

def VariableError.message : VariableError → Text
  | .unencodable obstacle => obstacle.message
  | .nulInVariable => "embedded null byte".text

def variableBytes (side : Text) : Except VariableError Bytes :=
  match Utf8.encodeName side with
  | .error obstacle => .error (.unencodable obstacle)
  | .ok bytes => .ok bytes

namespace Environment

/-- A variable that is set to nothing counts as not set. -/
def value? (environment : Environment) (name : Text) : Option Text :=
  (environment.lookup name).filter (· ≠ [])

/-- Both sides are encoded before a byte zero is looked for in either. -/
def keep (name value : Text) : Except VariableError (Text × Text) := do
  let nameBytes ← variableBytes name
  let valueBytes ← variableBytes value
  if nameBytes.contains 0 || valueBytes.contains 0 then .error .nulInVariable
  else .ok (Utf8.listedName name, Utf8.listedName value)

/-- The first variable that cannot be kept decides. -/
def ofVariables : List (Text × Text) → Except VariableError Environment
  | [] => .ok []
  | (name, value) :: others => do
      let kept ← keep name value
      let environment ← ofVariables others
      .ok (kept :: environment)

end Environment

inductive Key where
  | commitTypes
  | templatePath
  | changelogPath
  | repository
  | apiUrl
  | token
  | requestTimeout
deriving DecidableEq

namespace Key

def all : List Key :=
  [.commitTypes, .templatePath, .changelogPath, .repository, .apiUrl, .token, .requestTimeout]

/-- The keys whose value has to be a text, in the order in which they are checked. -/
def texts : List Key :=
  [.commitTypes, .templatePath, .changelogPath, .repository, .apiUrl]

def name : Key → Text
  | .commitTypes => "commit_types".text
  | .templatePath => "template_path".text
  | .changelogPath => "changelog_path".text
  | .repository => "github_repository".text
  | .apiUrl => "github_api_url".text
  | .token => "github_token".text
  | .requestTimeout => "request_timeout".text

def environmentName? : Key → Option Text
  | .commitTypes => some "CHANGELOG_COMMIT_TYPES".text
  | .templatePath => some "CHANGELOG_TEMPLATE_PATH".text
  | .changelogPath => some "CHANGELOG_PATH".text
  | .repository => some "GITHUB_REPOSITORY".text
  | .apiUrl => some "GITHUB_API_URL".text
  | .token => some "GITHUB_TOKEN".text
  | .requestTimeout => none

def isKnown (name : Text) : Bool :=
  all.any fun key => key.name == name

end Key

structure Sources where
  file : List (Text × Json)
  environment : Environment
  overrides : List (Text × Json)

namespace Sources

def overriding? (sources : Sources) (key : Key) : Option Json :=
  (sources.overrides.lookup key.name).filter fun value => !value.isNull

def environmental? (sources : Sources) (key : Key) : Option Json :=
  (key.environmentName?.bind sources.environment.value?).map .string

/-- An override wins over the environment, and that over the configuration file. -/
def value? (sources : Sources) (key : Key) : Option Json :=
  sources.overriding? key <|> sources.environmental? key <|> sources.file.lookup key.name

def givenNames (sources : Sources) : List Text :=
  sources.file.map Prod.fst ++
    (sources.overrides.filter fun (_, value) => !value.isNull).map Prod.fst

def unknownNames (sources : Sources) : List Text :=
  Text.sorted (sources.givenNames.filter fun name => !Key.isKnown name).eraseDups

end Sources

end Settings

structure Settings where
  workspace : Path
  commitTypes : Text
  templatePath : Option Path
  changelogPath : Path
  repository : Option Text
  /-- Whatever the configuration file holds; the environment can only give a text. -/
  token : Json
  apiUrl : Text
  timeout : Double

namespace Settings

def fileName : Text := ".changelog_config.json".text

def defaultCommitTypes : Text :=
  ("feat:Features,fix:Bug Fixes,perf:Performance Improvements,refactor:Refactoring," ++
    "docs:Documentation").text

def defaultChangelogPath : Text := "CHANGELOG.md".text

def defaultApiUrl : Text := "https://api.github.com".text

def defaultTimeout : Double := .ofDecimal false 30 0

def defaultTemplate : Text :=
  ("## \x7b\x7bversionName\x7d\x7d (\x7b\x7bdate\x7d\x7d)\n\n" ++
    "\x7b\x7b.SECTION\x7d\x7d### $title\x7b\x7b.SECTION\x7d\x7d\n" ++
    "\x7b\x7b.COMMITS\x7d\x7d- $commit\x7b\x7b.COMMITS\x7d\x7d\n").text

inductive ConfigError where
  | unreadable (fault : FileFault) (path : Path)
  | malformed (reason : Json.Reason) (position : Nat) (document : Text)
  | notObject
  | notText (key : Key)
  | timeoutNotNumber
  | timeoutNotPositive
  | templateUnreadable (fault : FileFault) (path : Path)
  | noRepository

def ConfigError.cause? : ConfigError → Option Text
  | .unreadable fault path => some (fault.messageFor path.text)
  | .malformed reason position document =>
      some ((Json.Failure.malformed reason position).message document)
  | .templateUnreadable fault path => some (fault.messageFor path.text)
  | _ => none

def ConfigError.message (error : ConfigError) : Text :=
  let cause := error.cause?.getD []
  match error with
  | .unreadable _ _ | .malformed _ _ _ =>
      "Invalid JSON in ".text ++ fileName ++ ": ".text ++ cause
  | .notObject => fileName ++ " must contain a JSON object".text
  | .notText key => "'".text ++ key.name ++ "' must be a string".text
  | .timeoutNotNumber => "'".text ++ Key.requestTimeout.name ++ "' must be a number".text
  | .timeoutNotPositive => "'".text ++ Key.requestTimeout.name ++ "' must be positive".text
  | .templateUnreadable _ path =>
      "Cannot read template file ".text ++ path.text ++ ": ".text ++ cause
  | .noRepository =>
      "The GitHub source requires GITHUB_REPOSITORY or 'github_repository' to be set".text

/-- Only a configuration error is reported as one; the others end a run as unexpected. -/
inductive LoadError where
  | config (error : ConfigError)
  | file (error : FileError)
  | document (failure : Json.Failure)
  | timeoutTooLarge

def LoadError.message : LoadError → Text
  | .config error => error.message
  | .file error => error.message
  | .document failure => failure.message []
  | .timeoutTooLarge => "int too large to convert to float".text

end Settings

end ReleaseNotes
