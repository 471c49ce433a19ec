import ReleaseNotes.Proofs.History.Pages

namespace ReleaseNotes.GitHub

/-!
What a client makes of pages of commits that are not as they should be. Most of what can be wrong
with a response is reported as a failure of the server; here is what is overlooked.
-/

/-- A failure of the server, or a value of the type that was asked for. -/
def IsSound (isTyped : α → Prop) : Except Error α → Prop
  | .error error => error.isUnexpected = false
  | .ok value => isTyped value

theorem not_isSound_of_ok {isTyped : α → Prop} {result : Except Error α} {value : α}
    (h : result = .ok value) (hvalue : ¬ isTyped value) : ¬ IsSound isTyped result := by
  rw [h]
  exact hvalue

/-- The only unexpected failure to read a value is that it goes too deep. -/
theorem Response.tooDeep_of_isUnexpected {response : Response} {error : Error}
    (hvalue : response.value = .error error) (h : error.isUnexpected = true) :
    ∃ container, response.value = .error (.tooDeep container) := by
  rw [hvalue]
  unfold value at hvalue
  split at hvalue
  · cases hvalue
    cases h
  · simp only at hvalue
    split at hvalue
    · split at hvalue
      · cases hvalue
      · cases hvalue
        exact ⟨_, rfl⟩
      · cases hvalue
        cases h
    · cases hvalue
      cases h

namespace Conversation

/-- How a conversation ends after a turn. -/
def resume (talk : Conversation α) : Except Error (Turn talk.State α) → List Response →
    Except Error α
  | .error error, _ => .error error
  | .ok (.finish result), _ => .ok result
  | .ok (.ask state), responses => (talk.run state responses).result

theorem resume_ask_cons (talk : Conversation α) (state : talk.State) (response : Response)
    (responses : List Response) :
    talk.resume (.ok (.ask state)) (response :: responses) =
      talk.resume (talk.turn state response) responses := by
  show (talk.run state (response :: responses)).result = _
  rw [run]
  cases talk.turn state response with
  | error error => rfl
  | ok turn => cases turn <;> rfl

theorem resume_of_error (talk : Conversation α) (state : talk.State) {response : Response}
    {error : Error} (h : response.value = .error error) (responses : List Response) :
    talk.resume (.ok (.ask state)) (response :: responses) = .error error := by
  rw [resume_ask_cons, turn, h]
  rfl

theorem resume_of_value (talk : Conversation α) (state : talk.State) {response : Response}
    {value : Json} (h : response.value = .ok value) (responses : List Response) :
    talk.resume (.ok (.ask state)) (response :: responses) =
      talk.resume (talk.receive state value) responses := by
  rw [resume_ask_cons, turn_of_value h]

/-- A response that is no value is reported as a failure of the server, unless it goes too deep. -/
theorem tooDeep_of_not_isSound {talk : Conversation α} {state : talk.State} {response : Response}
    {error : Error} {isTyped : α → Prop} {responses : List Response}
    (hvalue : response.value = .error error)
    (h : ¬ IsSound isTyped (talk.resume (.ok (.ask state)) (response :: responses))) :
    ∃ container, response.value = .error (.tooDeep container) := by
  rw [resume_of_error talk state hvalue] at h
  exact Response.tooDeep_of_isUnexpected hvalue (eq_true_of_ne_false h)

end Conversation

/-- The response is a page that holds these messages. -/
def Response.Holds (response : Response) (entries? : Json → Option (List Json)) (answer : Json)
    (found : List Json) : Prop :=
  response.value = .ok answer ∧
    ∃ entries, entries? answer = some entries ∧ entries.map message? = found.map some

/-- What the answers say about how many messages there are: more than so many, or nothing that could
be compared with a number. -/
structure Total where
  exceeds : Nat → Json → Prop
  isNoNumber : Json → Prop

namespace Total

def IsMore (count : Nat) : Json → Prop
  | .int total => (count : Int) < total
  | .bool total => count < total.toNat
  | .float total => total.isAtMost count = false
  | _ => False

/-- A comparison states the total, or else nothing more is to come. -/
def stated : Total where
  exceeds count answer :=
    ∃ total, answer.field? "total_commits".text = some total ∧ IsMore count total
  isNoNumber answer :=
    ∃ total, answer.field? "total_commits".text = some total ∧
      (∀ n, total ≠ .int n) ∧ (∀ b, total ≠ .bool b) ∧ ∀ d, total ≠ .float d

/-- A list states none, so that another page may follow every full one. -/
def unstated : Total where
  exceeds _ _ := True
  isNoNumber _ := False

structure IsReadBy (total : Total) (complete? : Nat → Json → Except Error Bool) : Prop where
  more : ∀ count answer, complete? count answer = .ok false ↔ total.exceeds count answer
  noNumber : ∀ count answer,
    (∃ error, complete? count answer = .error error) ↔ total.isNoNumber answer

theorem IsReadBy.complete {total : Total} {complete? : Nat → Json → Except Error Bool}
    (h : total.IsReadBy complete?) (count : Nat) (answer : Json) :
    complete? count answer = .ok true ↔
      ¬ total.exceeds count answer ∧ ¬ total.isNoNumber answer := by
  rw [← h.more, ← h.noNumber count]
  cases complete? count answer with
  | error error => simp
  | ok isComplete => cases isComplete <;> simp

end Total

/-- What is overlooked while messages are gathered page by page: a page that goes too deep, a count
of all commits that is no number, and among the messages that are delivered one that is no text. -/
inductive GatheringOverlooks (entries? : Json → Option (List Json)) (total : Total) :
    List Json → List Response → Prop
  | tooDeep {gathered : List Json} {response : Response} {responses : List Response}
      {container : Json.Container} :
      response.value = .error (.tooDeep container) →
      GatheringOverlooks entries? total gathered (response :: responses)
  | total {gathered found : List Json} {answer : Json} {response : Response}
      {responses : List Response} :
      response.Holds entries? answer found → pageSize ≤ found.length → total.isNoNumber answer →
      GatheringOverlooks entries? total gathered (response :: responses)
  | message {gathered found : List Json} {answer message : Json} {response : Response}
      {responses : List Response} :
      response.Holds entries? answer found →
      found.length < pageSize ∨
        ¬ total.exceeds (gathered ++ found).length answer ∧ ¬ total.isNoNumber answer →
      message ∈ gathered ++ found → message.text? = none →
      GatheringOverlooks entries? total gathered (response :: responses)
  | later {gathered found : List Json} {answer : Json} {response : Response}
      {responses : List Response} :
      response.Holds entries? answer found → pageSize ≤ found.length →
      total.exceeds (gathered ++ found).length answer →
      GatheringOverlooks entries? total (gathered ++ found) responses →
      GatheringOverlooks entries? total gathered (response :: responses)

/-- What becomes of the messages of one page with so many entries. -/
def gatherFound (complete? : Nat → Json → Except Error Bool) (deliver : List Json → List Json)
    (state : Gathering) (answer : Json) (count : Nat) (found : List Json) :
    Except Error (Turn Gathering (List Json)) :=
  let gathered := state.gathered ++ found
  if count < pageSize then .ok (.finish (deliver gathered))
  else match complete? gathered.length answer with
    | .error error => .error error
    | .ok true => .ok (.finish (deliver gathered))
    | .ok false => .ok (.ask ⟨state.page + 1, gathered⟩)

/-- What becomes of one page. -/
def gatherPage (entries? : Json → Option (List Json))
    (complete? : Nat → Json → Except Error Bool) (refusal : Error)
    (deliver : List Json → List Json) (state : Gathering) (answer : Json) :
    Except Error (Turn Gathering (List Json)) :=
  match entries? answer with
  | none => .error refusal
  | some entries =>
      match messages entries with
      | .error error => .error error
      | .ok found => gatherFound complete? deliver state answer entries.length found

/-- The conversation that gathers messages page by page. -/
abbrev gathering (request : Gathering → Request) (entries? : Json → Option (List Json))
    (complete? : Nat → Json → Except Error Bool) (refusal : Error)
    (deliver : List Json → List Json) : Conversation (List Json) where
  State := Gathering
  request := request
  receive := gatherPage entries? complete? refusal deliver
  remark _ _ := []

def AreTexts (messages : List Json) : Prop :=
  ∀ message ∈ messages, message.text? ≠ none

section Gathering

variable {request : Gathering → Request} {entries? : Json → Option (List Json)}
  {complete? : Nat → Json → Except Error Bool} {total : Total} {refusal : Error}
  {deliver : List Json → List Json} {state : Gathering} {answer : Json}
  {gathered found : List Json} {response : Response} {responses : List Response}

theorem gatherFound_eq_finish
    (h : found.length < pageSize ∨ complete? (state.gathered ++ found).length answer = .ok true) :
    gatherFound complete? deliver state answer found.length found =
      .ok (.finish (deliver (state.gathered ++ found))) := by
  rw [gatherFound]
  by_cases hshort : found.length < pageSize
  · rw [if_pos hshort]
  · rw [if_neg hshort, h.resolve_left hshort]

theorem gatherPage_of_holds (h : response.Holds entries? answer found) :
    gatherPage entries? complete? refusal deliver state answer =
      gatherFound complete? deliver state answer found.length found := by
  obtain ⟨_, entries, hentries, hfound⟩ := h
  rw [gatherPage, hentries]
  simp only [messages, readEntries_eq_ok hfound, length_eq_of_map_some hfound]

theorem turn_gathering (h : response.Holds entries? answer found) :
    (gathering request entries? complete? refusal deliver).turn state response =
      gatherFound complete? deliver state answer found.length found :=
  (Conversation.turn_of_value h.1).trans (gatherPage_of_holds h)

theorem not_isSound_of_overlooks
    (htotal : total.IsReadBy complete?)
    (hcomplete : ∀ count answer error, complete? count answer = .error error →
      error.isUnexpected = true)
    (hdeliver : ∀ messages message, message ∈ deliver messages ↔ message ∈ messages)
    (h : GatheringOverlooks entries? total gathered responses) (page : Nat) :
    ¬ IsSound AreTexts ((gathering request entries? complete? refusal deliver).resume
      (.ok (.ask ⟨page, gathered⟩)) responses) := by
  induction h generalizing page with
  | tooDeep hvalue =>
      rw [Conversation.resume_of_error _ _ hvalue]
      intro hsound
      cases hsound
  | total hholds hfull hnumber =>
      obtain ⟨error, herror⟩ := (htotal.noNumber _ _).mpr hnumber
      rw [Conversation.resume_ask_cons, turn_gathering hholds, gatherFound,
        if_neg (Nat.not_lt.mpr hfull), herror]
      intro hsound
      cases (hcomplete _ _ _ herror).symm.trans hsound
  | message hholds hlast hmessage htext =>
      rw [← htotal.complete] at hlast
      rw [Conversation.resume_ask_cons, turn_gathering hholds, gatherFound_eq_finish hlast]
      intro hsound
      exact hsound _ ((hdeliver _ _).mpr hmessage) htext
  | later hholds hfull hmore _ ih =>
      rw [← htotal.more] at hmore
      rw [Conversation.resume_ask_cons, turn_gathering hholds, gatherFound,
        if_neg (Nat.not_lt.mpr hfull), hmore]
      exact ih (page + 1)

/-- What is no page of messages is refused as a failure of the server. -/
theorem holds_of_not_isSound (hrefusal : refusal.isUnexpected = false)
    (hvalue : response.value = .ok answer)
    (h : ¬ IsSound AreTexts ((gathering request entries? complete? refusal deliver).resume
      ((gathering request entries? complete? refusal deliver).turn state response) responses)) :
    ∃ found, response.Holds entries? answer found := by
  rw [Conversation.turn_of_value hvalue] at h
  simp only [gatherPage] at h
  cases hentries : entries? answer with
  | none =>
      simp only [hentries] at h
      exact absurd hrefusal h
  | some entries =>
      cases hmessages : messages entries with
      | error error =>
          obtain ⟨entry, rfl⟩ := refused_of_readEntries hmessages
          simp only [hentries, hmessages] at h
          exact absurd rfl h
      | ok found => exact ⟨found, hvalue, entries, hentries, map_of_readEntries hmessages⟩

theorem overlooks_of_not_isSound (htotal : total.IsReadBy complete?)
    (hrefusal : refusal.isUnexpected = false)
    (hdeliver : ∀ messages message, message ∈ deliver messages ↔ message ∈ messages)
    (h : ¬ IsSound AreTexts ((gathering request entries? complete? refusal deliver).resume
      (.ok (.ask state)) responses)) :
    GatheringOverlooks entries? total state.gathered responses := by
  induction responses generalizing state with
  | nil => exact absurd rfl h
  | cons response responses ih =>
      cases hvalue : response.value with
      | error error =>
          obtain ⟨container, hdeep⟩ := Conversation.tooDeep_of_not_isSound hvalue h
          exact .tooDeep hdeep
      | ok answer =>
          rw [Conversation.resume_ask_cons] at h
          obtain ⟨found, hholds⟩ := holds_of_not_isSound hrefusal hvalue h
          rw [turn_gathering hholds] at h
          by_cases hlast : found.length < pageSize ∨
              complete? (state.gathered ++ found).length answer = .ok true
          · rw [gatherFound_eq_finish hlast] at h
            obtain ⟨message, hmessage, htext⟩ : ∃ message ∈ deliver (state.gathered ++ found),
                message.text? = none := by
              simpa [Conversation.resume, IsSound, AreTexts] using h
            rw [htotal.complete] at hlast
            exact .message hholds hlast ((hdeliver _ _).mp hmessage) htext
          · obtain ⟨hfull, hmore⟩ := not_or.mp hlast
            rw [gatherFound, if_neg hfull] at h
            cases hcount : complete? (state.gathered ++ found).length answer with
            | error error =>
                exact .total hholds (Nat.not_lt.mp hfull) ((htotal.noNumber _ _).mp ⟨error, hcount⟩)
            | ok isComplete =>
                cases isComplete with
                | true => exact absurd hcount hmore
                | false =>
                    simp only [hcount] at h
                    exact .later hholds (Nat.not_lt.mp hfull) ((htotal.more _ _).mp hcount) (ih h)

theorem isSound_gathering_iff (htotal : total.IsReadBy complete?)
    (hrefusal : refusal.isUnexpected = false)
    (hcomplete : ∀ count answer error, complete? count answer = .error error →
      error.isUnexpected = true)
    (hdeliver : ∀ messages message, message ∈ deliver messages ↔ message ∈ messages) :
    IsSound AreTexts
        ((gathering request entries? complete? refusal deliver).run
          Gathering.first responses).result ↔
      ¬ GatheringOverlooks entries? total [] responses :=
  ⟨fun hsound h => not_isSound_of_overlooks htotal hcomplete hdeliver h 1 hsound,
    fun h => of_not_not fun hsound => h (overlooks_of_not_isSound htotal hrefusal hdeliver hsound)⟩

end Gathering

/-- A comparison lists the commits beside their count. -/
def comparedEntries? (answer : Json) : Option (List Json) :=
  (answer.field? "commits".text).bind Json.list?

theorem isUnexpected_of_isComplete {count : Nat} {answer : Json} {error : Error}
    (h : isComplete count answer = .error error) : error.isUnexpected = true := by
  unfold isComplete at h
  split at h
  · cases h
  · unfold reaches at h
    split at h
    · cases h
    · cases h
    · cases h
    · cases h
      rfl

theorem Total.isReadBy_isComplete : Total.stated.IsReadBy isComplete where
  more count answer := by
    cases htotal : answer.field? "total_commits".text with
    | none => simp [stated, isComplete, htotal]
    | some total => cases total <;> simp [stated, isComplete, htotal, reaches, IsMore]
  noNumber count answer := by
    cases htotal : answer.field? "total_commits".text with
    | none => simp [stated, isComplete, htotal]
    | some total => cases total <;> simp [stated, isComplete, htotal, reaches]

theorem result_noting (outcome : Outcome α) (note : α → LogLine) :
    (outcome.noting note).result = outcome.result := by
  unfold Outcome.noting
  split
  · rfl
  · rfl

/-- A page that is not full is the last one. -/
theorem compare_of_short {client : Client} {base head : Text} {response : Response} {answer : Json}
    {found : List Json} {responses : List Response}
    (hholds : response.Holds comparedEntries? answer found) (hshort : found.length < pageSize) :
    (client.compare base head (response :: responses)).result = .ok found := by
  rw [Client.compare, result_noting]
  show (gathering _ comparedEntries? isComplete .compareShape id).resume
    (.ok (.ask Gathering.first)) (response :: responses) = _
  rw [Conversation.resume_ask_cons, turn_gathering hholds, gatherFound_eq_finish (.inl hshort)]
  rfl

theorem isSound_compare_iff (client : Client) (base head : Text) (responses : List Response) :
    IsSound AreTexts (client.compare base head responses).result ↔
      ¬ GatheringOverlooks comparedEntries? .stated [] responses := by
  rw [Client.compare, result_noting]
  show IsSound AreTexts ((gathering _ comparedEntries? isComplete .compareShape id).run
    Gathering.first responses).result ↔ _
  exact isSound_gathering_iff Total.isReadBy_isComplete rfl
    (fun _ _ _ => isUnexpected_of_isComplete) fun _ _ => Iff.rfl

theorem isSound_list_iff (client : Client) (head : Text) (responses : List Response) :
    IsSound AreTexts (client.list head responses).result ↔
      ¬ GatheringOverlooks Json.list? .unstated [] responses := by
  rw [Client.list, result_noting]
  show IsSound AreTexts ((gathering _ Json.list? (fun _ _ => .ok false) .commitsShape
    List.reverse).run Gathering.first responses).result ↔ _
  have htotal : Total.unstated.IsReadBy fun _ _ => .ok false :=
    ⟨by simp [Total.unstated], by simp [Total.unstated]⟩
  exact isSound_gathering_iff htotal rfl (fun _ _ _ h => nomatch h) fun _ _ => List.mem_reverse

end ReleaseNotes.GitHub
