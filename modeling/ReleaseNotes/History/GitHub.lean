import ReleaseNotes.Json.Reader
import ReleaseNotes.Text.Utf8

namespace ReleaseNotes.GitHub

/-!
The server is known by its responses alone: a queue that is used up one request at a time. A
conversation says which request to make next and what to do with the value that comes back; a
response that carries no value ends it.
-/

structure Request where
  url : Text
  headers : List (Text × Text)
  params : List (Text × Json)
  timeout : Json

inductive Response where
  | answered (status : Int) (body : Bytes)
  | broken (message : Text)

inductive Error where
  | connection (message : Text)
  | status (code : Int) (body : Text)
  | unreadable (failure : Json.Failure) (body : Text)
  | tooDeep (container : Json.Container)
  | commitEntry (entry : Json)
  | tagEntry (entry : Json)
  | compareShape
  | commitsShape
  | tagsShape
  /-- The count of commits is compared before anyone has looked whether it is a number. -/
  | incomparableTotal (total : Json)

def Error.message : Error → Text
  | .connection message => message
  | .status code body =>
      "GitHub returned status ".text ++ Text.ofInt code ++ ": ".text ++ body
  | .unreadable _ _ => "Failed to parse GitHub response".text
  | .tooDeep container => (Json.Failure.tooDeep container).message []
  | .commitEntry entry => "Unexpected commit entry in GitHub response: ".text ++ entry.inspect
  | .tagEntry entry => "Unexpected tag entry in GitHub response: ".text ++ entry.inspect
  | .compareShape => "Unexpected compare response from GitHub".text
  | .commitsShape => "Unexpected commits response from GitHub".text
  | .tagsShape => "Unexpected tags response from GitHub".text
  | .incomparableTotal total =>
      "'>=' not supported between instances of 'int' and '".text ++ total.kindName ++ "\x27".text

/-- Some errors are not reported as failures of the server. -/
def Error.isUnexpected : Error → Bool
  | .incomparableTotal _ | .tooDeep _ => true
  | _ => false

def exhaustedStatus : Int := 599

def exhaustedBody : String := "no scripted response"

def Error.exhausted : Error := .status exhaustedStatus exhaustedBody.text

namespace Response

def exhausted : Response := .answered exhaustedStatus (Utf8.encodeChars exhaustedBody.toList)

def value : Response → Except Error Json
  | .broken message => .error (.connection message)
  | .answered status body =>
      let text := Utf8.decodeLenient body
      if status = 200 then
        match Json.read text with
        | .ok value => .ok value
        | .error (.tooDeep container) => .error (.tooDeep container)
        | .error failure => .error (.unreadable failure text)
      else .error (.status status text)

end Response

def requestLog (request : Request) (response : Response) : List LogLine :=
  ⟨.debug, "Requesting ".text ++ request.url ++ " with params ".text ++
      (Json.object request.params).inspect⟩ ::
    match response.value with
    | .error (.connection message) =>
        [⟨.error, "Failed to connect to GitHub: ".text ++ message⟩]
    | .error (.status code body) =>
        [⟨.error, "GitHub returned non-200 status ".text ++ Text.ofInt code ++ ": ".text ++
          body⟩]
    | .error (.unreadable failure body) =>
        [⟨.error, "Failed to parse GitHub response: ".text ++ failure.message body⟩]
    | _ => []

structure Exchange where
  request : Request
  response : Response

structure Outcome (α : Type) where
  result : Except Error α
  exchanges : List Exchange
  responses : List Response
  log : List LogLine

namespace Outcome

def after (exchange : Exchange) (log : List LogLine) (outcome : Outcome α) : Outcome α :=
  { outcome with
    exchanges := exchange :: outcome.exchanges
    log := log ++ outcome.log }

def noting (outcome : Outcome α) (note : α → LogLine) : Outcome α :=
  match outcome.result with
  | .error _ => outcome
  | .ok value => { outcome with log := outcome.log ++ [note value] }

end Outcome

inductive Turn (σ α : Type) where
  | ask (state : σ)
  | finish (result : α)

structure Conversation (α : Type) where
  State : Type
  request : State → Request
  receive : State → Json → Except Error (Turn State α)
  remark : State → Json → List LogLine

namespace Conversation

def log (talk : Conversation α) (state : talk.State) (response : Response) : List LogLine :=
  requestLog (talk.request state) response ++
    match response.value with
    | .ok value => talk.remark state value
    | .error _ => []

def turn (talk : Conversation α) (state : talk.State) (response : Response) :
    Except Error (Turn talk.State α) :=
  match response.value with
  | .error error => .error error
  | .ok value => talk.receive state value

def run (talk : Conversation α) : talk.State → List Response → Outcome α
  | state, [] =>
      ⟨.error .exhausted, [⟨talk.request state, .exhausted⟩], [], talk.log state .exhausted⟩
  | state, response :: responses =>
      let exchange : Exchange := ⟨talk.request state, response⟩
      let log := talk.log state response
      match talk.turn state response with
      | .error error => ⟨.error error, [exchange], responses, log⟩
      | .ok (.finish result) => ⟨.ok result, [exchange], responses, log⟩
      | .ok (.ask next) => (run talk next responses).after exchange log

end Conversation

structure Client where
  repository : Text
  token : Json
  apiUrl : Text
  timeout : Json

def pageSize : Nat := 100

namespace Client

def defaultApiUrl : Text := "https://api.github.com".text

def headers (client : Client) : List (Text × Text) :=
  [ ("Accept".text, "application/vnd.github+json".text),
    ("X-GitHub-Api-Version".text, "2022-11-28".text) ] ++
  if client.token.isNothing then []
  else [("Authorization".text, "Bearer ".text ++ client.token.plain)]

def url (client : Client) (resource : Text) : Text :=
  Text.dropEndWhile (· == Letter.char '/') client.apiUrl ++ "/repos/".text ++ client.repository ++
    "/".text ++ resource

def request (client : Client) (resource : Text) (params : List (Text × Json)) : Request :=
  ⟨client.url resource, client.headers, params, client.timeout⟩

def comparison (base head : Text) : Text :=
  "compare/".text ++ base ++ "...".text ++ head

end Client

def perPage (count : Nat) : Text × Json :=
  ("per_page".text, .int count)

def pageParam (page : Nat) : Text × Json :=
  ("page".text, .int page)

/-! A message is whatever value stands in its place; only later does anyone ask for a text. -/

def message? (entry : Json) : Option Json :=
  (entry.field? "commit".text).bind fun commit => commit.field? "message".text

def readEntries (read? : Json → Option Json) (refuse : Json → Error) :
    List Json → Except Error (List Json)
  | [] => .ok []
  | entry :: entries =>
      match read? entry with
      | none => .error (refuse entry)
      | some value => (readEntries read? refuse entries).map (value :: ·)

def messages (entries : List Json) : Except Error (List Json) :=
  readEntries message? .commitEntry entries

structure Gathering where
  page : Nat
  gathered : List Json

def Gathering.first : Gathering := ⟨1, []⟩

def reaches (count : Nat) (total : Json) : Except Error Bool :=
  match total with
  | .int total => .ok (decide (total ≤ count))
  | .bool total => .ok (decide (total.toNat ≤ count))
  | .float total => .ok (total.isAtMost count)
  | total => .error (.incomparableTotal total)

/-- Without a count of all commits there is nothing more to expect. -/
def isComplete (gathered : Nat) (answer : Json) : Except Error Bool :=
  match answer.field? "total_commits".text with
  | none => .ok true
  | some total => reaches gathered total

namespace Client

def comparePage (state : Gathering) (answer : Json) :
    Except Error (Turn Gathering (List Json)) :=
  match (answer.field? "commits".text).bind Json.list? with
  | none => .error .compareShape
  | some entries =>
      match messages entries with
      | .error error => .error error
      | .ok found =>
          let gathered := state.gathered ++ found
          if entries.length < pageSize then .ok (.finish gathered)
          else match isComplete gathered.length answer with
            | .error error => .error error
            | .ok true => .ok (.finish gathered)
            | .ok false => .ok (.ask ⟨state.page + 1, gathered⟩)

def comparing (client : Client) (base head : Text) : Conversation (List Json) where
  State := Gathering
  request state := client.request (comparison base head) [perPage pageSize, pageParam state.page]
  receive := comparePage
  remark _ _ := []

def listPage (state : Gathering) (answer : Json) :
    Except Error (Turn Gathering (List Json)) :=
  match answer.list? with
  | none => .error .commitsShape
  | some entries =>
      match messages entries with
      | .error error => .error error
      | .ok found =>
          let gathered := state.gathered ++ found
          if entries.length < pageSize then .ok (.finish gathered.reverse)
          else .ok (.ask ⟨state.page + 1, gathered⟩)

def listing (client : Client) (head : Text) : Conversation (List Json) where
  State := Gathering
  request state :=
    client.request "commits".text
      [("sha".text, .string head), perPage pageSize, pageParam state.page]
  receive := listPage
  remark _ _ := []

/-- Oldest first, as the server lists them. -/
def compare (client : Client) (base head : Text) (responses : List Response) :
    Outcome (List Json) :=
  ((client.comparing base head).run Gathering.first responses).noting fun commits =>
    ⟨.debug, "Fetched ".text ++ Text.ofNat commits.length ++ " commit(s) between ".text ++
      base ++ " and ".text ++ head⟩

/-- Oldest first, though the server lists the newest first. -/
def list (client : Client) (head : Text) (responses : List Response) : Outcome (List Json) :=
  ((client.listing head).run Gathering.first responses).noting fun commits =>
    ⟨.debug, "Fetched ".text ++ Text.ofNat commits.length ++ " commit(s) up to ".text ++ head⟩

end Client

/-!
The server lists tags by name. Each tag in turn is compared with the head, the reachable one with
the fewest commits in between is kept, and a tag at the head itself ends the search at once.
-/

structure Nearest where
  tag : Json
  distance : Int

namespace Nearest

/-- An earlier tag wins against a later one as near. -/
def keep (best : Option Nearest) (tag : Json) (distance : Int) : Option Nearest :=
  match best with
  | none => some ⟨tag, distance⟩
  | some known => if distance < known.distance then some ⟨tag, distance⟩ else some known

end Nearest

inductive TagSearch where
  | listing (page : Nat) (best : Option Nearest)
  | measuring (tag : Json) (later : List Json) (isFull : Bool) (page : Nat) (best : Option Nearest)

def isExcluded (excluded : List Text) : Json → Bool
  | .string name => excluded.contains name
  | _ => false

/-- How far the head is ahead of a tag; none if the tag cannot be reached from it. -/
def distance (answer : Json) : Except Error (Option Int) :=
  match answer with
  | .object _ =>
      match answer.field? "status".text with
      | some (.string status) =>
          if status = "ahead".text ∨ status = "identical".text then
            match answer.field? "ahead_by".text with
            | none => .ok (some 0)
            | some (.int ahead) => .ok (some ahead)
            | some _ => .error .compareShape
          else .ok none
      | _ => .ok none
  | _ => .error .compareShape

namespace TagSearch

abbrev Step := Except Error (Turn TagSearch (Option Json))

/-- Goes on to the next tag of the page, or to the next page if this one was full. -/
def advance (excluded : List Text) (isFull : Bool) (page : Nat) (best : Option Nearest) :
    List Json → Step
  | [] => if isFull then .ok (.ask (.listing (page + 1) best)) else .ok (.finish (best.map (·.tag)))
  | entry :: entries =>
      match entry.field? "name".text with
      | none => .error (.tagEntry entry)
      | some tag =>
          if isExcluded excluded tag then advance excluded isFull page best entries
          else .ok (.ask (.measuring tag entries isFull page best))

def receive (excluded : List Text) (state : TagSearch) (answer : Json) : Step :=
  match state with
  | .listing page best =>
      match answer.list? with
      | none => .error .tagsShape
      | some entries => advance excluded (decide (pageSize ≤ entries.length)) page best entries
  | .measuring tag later isFull page best =>
      match distance answer with
      | .error error => .error error
      | .ok none => advance excluded isFull page best later
      | .ok (some ahead) =>
          let best := Nearest.keep best tag ahead
          if ahead = 0 then .ok (.finish (best.map (·.tag)))
          else advance excluded isFull page best later

def request (client : Client) (head : Text) : TagSearch → Request
  | .listing page _ => client.request "tags".text [perPage pageSize, pageParam page]
  | .measuring tag _ _ _ _ => client.request (Client.comparison tag.plain head) [perPage 1]

def remark (head : Text) : TagSearch → Json → List LogLine
  | .listing _ _, _ => []
  | .measuring tag _ _ _ _, answer =>
      match distance answer with
      | .ok none =>
          [⟨.debug, "Tag ".text ++ tag.plain ++ " is not reachable from ".text ++ head⟩]
      | _ => []

end TagSearch

namespace Client

def searching (client : Client) (head : Text) (excluded : List Text) :
    Conversation (Option Json) where
  State := TagSearch
  request := TagSearch.request client head
  receive := TagSearch.receive excluded
  remark := TagSearch.remark head

def latestTag (client : Client) (head : Text) (excluded : List Text)
    (responses : List Response) : Outcome (Option Json) :=
  ((client.searching head excluded).run (.listing 1 none) responses).noting fun tag =>
    ⟨.debug, "Latest tag reachable from ".text ++ head ++ ": ".text ++
      (tag.getD .null).plain⟩

end Client

end ReleaseNotes.GitHub
