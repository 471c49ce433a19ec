import Mathlib.Data.List.Basic
import ReleaseNotes.History.GitHub

namespace ReleaseNotes.GitHub

/-! A service answers every request in its own way. What a client learns from it depends on nothing
but the answers to the requests that the client makes. -/

abbrev Service := Request → Response

/-- Where a service answers these requests in turn, the client makes each of them and no other, and
comes to this result; what else is in the queue stays there. -/
structure Service.Settles (service : Service) (ask : List Response → Outcome α)
    (requests : List Request) (result : α) : Prop where
  comes_to : ∀ later, (ask (requests.map service ++ later)).result = .ok result
  exchanges : ∀ later, (ask (requests.map service ++ later)).exchanges =
    requests.map fun request => ⟨request, service request⟩
  leaves : ∀ later, (ask (requests.map service ++ later)).responses = later

theorem Service.Settles.noting {service : Service} {ask : List Response → Outcome α}
    {requests : List Request} {result : α} (h : service.Settles ask requests result)
    (note : α → LogLine) :
    service.Settles (fun responses => (ask responses).noting note) requests result where
  comes_to later := by rw [Outcome.noting, h.comes_to later]
  exchanges later := by
    rw [Outcome.noting, h.comes_to later]
    exact h.exchanges later
  leaves later := by
    rw [Outcome.noting, h.comes_to later]
    exact h.leaves later

/-- A body that spells a value is answered with it. -/
theorem Response.value_of_read {body : List Char} {value : Json}
    (h : Json.read (Text.ofChars body) = .ok value) :
    (Response.answered 200 (Utf8.encodeChars body)).value = .ok value := by
  rw [Response.value, Utf8.decodeLenient_encodeChars, if_pos rfl, h]

namespace Conversation

variable {talk : Conversation α} {service : Service}

theorem turn_of_value {state : talk.State} {response : Response} {value : Json}
    (h : response.value = .ok value) : talk.turn state response = talk.receive state value := by
  rw [turn, h]

/-- The requests that follow a turn and what they lead to. -/
inductive Leads (talk : Conversation α) (service : Service) :
    Except Error (Turn talk.State α) → List Request → α → Prop
  | finish (result : α) : Leads talk service (.ok (.finish result)) [] result
  | ask (next : talk.State) {requests : List Request} {result : α} :
      Leads talk service (talk.turn next (service (talk.request next))) requests result →
        Leads talk service (.ok (.ask next)) (talk.request next :: requests) result

theorem leads_ask_of_value (talk : Conversation α) (next : talk.State) {value : Json}
    {requests : List Request} {result : α}
    (hvalue : (service (talk.request next)).value = .ok value)
    (h : talk.Leads service (talk.receive next value) requests result) :
    talk.Leads service (.ok (.ask next)) (talk.request next :: requests) result := by
  apply Leads.ask
  rw [turn_of_value hvalue]
  exact h

theorem settles_finish {state : talk.State} {result : α}
    (h : talk.turn state (service (talk.request state)) = .ok (.finish result)) :
    service.Settles (talk.run state) [talk.request state] result where
  comes_to later := by simp only [List.map_cons, List.cons_append, run, h]
  exchanges later := by simp only [List.map_cons, List.map_nil, List.cons_append, run, h]
  leaves later := by
    simp only [List.map_cons, List.map_nil, List.cons_append, List.nil_append, run, h]

theorem settles_ask {state next : talk.State} {requests : List Request} {result : α}
    (h : talk.turn state (service (talk.request state)) = .ok (.ask next))
    (hnext : service.Settles (talk.run next) requests result) :
    service.Settles (talk.run state) (talk.request state :: requests) result where
  comes_to later := by
    simp only [List.map_cons, List.cons_append, run, h]
    exact hnext.comes_to later
  exchanges later := by
    simp only [List.map_cons, List.cons_append, run, h, Outcome.after]
    rw [hnext.exchanges later]
  leaves later := by
    simp only [List.map_cons, List.cons_append, run, h]
    exact hnext.leaves later

theorem settles_turn {turn : Except Error (Turn talk.State α)} {requests : List Request}
    {result : α} (h : talk.Leads service turn requests result) {state : talk.State}
    (hturn : talk.turn state (service (talk.request state)) = turn) :
    service.Settles (talk.run state) (talk.request state :: requests) result := by
  induction h generalizing state with
  | finish result => exact settles_finish hturn
  | ask next _ ih => exact settles_ask hturn (ih rfl)

theorem settles_of_leads {state : talk.State} {requests : List Request} {result : α}
    (h : talk.Leads service (.ok (.ask state)) requests result) :
    service.Settles (talk.run state) requests result := by
  cases h with
  | ask _ hturn => exact settles_turn hturn rfl

/-- A conversation that passes through numbered states until it finishes in the last of them. -/
theorem leads_numbered (talk : Conversation α) (state : Nat → talk.State) {count : Nat} {result : α}
    (hask : ∀ index < count, talk.turn (state index) (service (talk.request (state index))) =
      .ok (.ask (state (index + 1))))
    (hfinish : talk.turn (state count) (service (talk.request (state count))) =
      .ok (.finish result)) :
    talk.Leads service (.ok (.ask (state 0)))
      ((List.range (count + 1)).map fun index => talk.request (state index)) result := by
  induction count generalizing state with
  | zero =>
      apply Leads.ask
      rw [hfinish]
      exact Leads.finish result
  | succ count ih =>
      have hlater := ih (fun index => state (index + 1))
        (fun index hindex => hask (index + 1) (Nat.succ_lt_succ hindex)) hfinish
      rw [List.range_succ_eq_map, List.map_cons, List.map_map]
      apply Leads.ask
      rw [hask 0 (Nat.zero_lt_succ count)]
      exact hlater

end Conversation

/-! Entries that a service lists page by page. A client that gathers them goes on exactly as long as
there is another page to ask for. -/

/-- The first page has index zero, though a client asks for it as page one. -/
def pageOf (entries : List α) (index : Nat) : List α :=
  (entries.drop (pageSize * index)).take pageSize

section Pages

variable (entries : List α) (index : Nat)

theorem length_pageOf :
    (pageOf entries index).length = min pageSize (entries.length - pageSize * index) := by
  rw [pageOf, List.length_take, List.length_drop]

theorem map_pageOf (f : α → β) :
    (pageOf entries index).map f = pageOf (entries.map f) index := by
  rw [pageOf, pageOf, List.map_take, List.map_drop]

theorem take_append_pageOf :
    entries.take (pageSize * index) ++ pageOf entries index =
      entries.take (pageSize * (index + 1)) := by
  rw [pageOf, Nat.mul_succ, List.take_add]

theorem pageOf_append_drop :
    pageOf entries index ++ entries.drop (pageSize * (index + 1)) =
      entries.drop (pageSize * index) := by
  rw [pageOf, Nat.mul_succ, ← List.drop_drop]
  exact List.take_append_drop pageSize _

theorem isFull_pageOf :
    pageSize ≤ (pageOf entries index).length ↔ pageSize * (index + 1) ≤ entries.length := by
  rw [length_pageOf, Nat.mul_succ]
  have hsize : 0 < pageSize := by decide
  omega

/-- The first pages together hold the first entries, each of them once. -/
theorem flatMap_pageOf (count : Nat) :
    (List.range count).flatMap (pageOf entries) = entries.take (pageSize * count) := by
  induction count with
  | zero => rfl
  | succ count ih =>
      rw [List.range_succ, List.flatMap_append, List.flatMap_singleton, ih, take_append_pageOf]

end Pages

/-! A page of entries is read as a page of what stands in them. -/

theorem length_eq_of_map_some {read? : Json → Option Json} {entries values : List Json}
    (h : entries.map read? = values.map some) : entries.length = values.length := by
  rw [← List.length_map read?, h, List.length_map]

theorem readEntries_eq_ok {read? : Json → Option Json} {entries values : List Json}
    (h : entries.map read? = values.map some) (refuse : Json → Error) :
    readEntries read? refuse entries = .ok values := by
  induction entries generalizing values with
  | nil =>
      rw [List.map_eq_nil_iff.mp h.symm]
      rfl
  | cons entry entries ih =>
      cases values with
      | nil => cases h
      | cons value values =>
          obtain ⟨hentry, hentries⟩ := List.cons.inj h
          rw [readEntries, hentry]
          simp only [ih hentries]
          rfl

theorem map_of_readEntries {read? : Json → Option Json} {refuse : Json → Error}
    {entries values : List Json} (h : readEntries read? refuse entries = .ok values) :
    entries.map read? = values.map some := by
  induction entries generalizing values with
  | nil =>
      cases h
      rfl
  | cons entry entries ih =>
      rw [readEntries] at h
      cases hentry : read? entry with
      | none => simp only [hentry] at h; cases h
      | some value =>
          simp only [hentry] at h
          cases hentries : readEntries read? refuse entries with
          | error error => rw [hentries] at h; cases h
          | ok rest =>
              rw [hentries] at h
              cases h
              rw [List.map_cons, List.map_cons, hentry, ih hentries]

theorem refused_of_readEntries {read? : Json → Option Json} {refuse : Json → Error}
    {entries : List Json} {error : Error} (h : readEntries read? refuse entries = .error error) :
    ∃ entry, error = refuse entry := by
  induction entries with
  | nil => cases h
  | cons entry entries ih =>
      rw [readEntries] at h
      cases hentry : read? entry with
      | none =>
          simp only [hentry] at h
          cases h
          exact ⟨entry, rfl⟩
      | some value =>
          simp only [hentry] at h
          cases hentries : readEntries read? refuse entries with
          | error reason =>
              rw [hentries] at h
              cases h
              exact ih hentries
          | ok rest => rw [hentries] at h; cases h

theorem messages_pageOf {entries found : List Json}
    (h : entries.map message? = found.map some) (index : Nat) :
    messages (pageOf entries index) = .ok (pageOf found index) := by
  apply readEntries_eq_ok
  rw [map_pageOf, map_pageOf, h]

/-- What has been gathered when a page is asked for. -/
def gatheredBefore (found : List Json) (index : Nat) : Gathering :=
  ⟨index + 1, found.take (pageSize * index)⟩

theorem gathered_append {found : List Json} (index : Nat) :
    (gatheredBefore found index).gathered ++ pageOf found index =
      (gatheredBefore found (index + 1)).gathered :=
  take_append_pageOf found index

theorem gathered_eq_all {found : List Json} {index : Nat}
    (h : found.length ≤ pageSize * index) : (gatheredBefore found index).gathered = found :=
  List.take_of_length_le h

section Comparison

variable {client : Client} {service : Service} {base head : Text} {entries found : List Json}

def Client.comparisonPage (client : Client) (base head : Text) (number : Nat) : Request :=
  client.request (Client.comparison base head) [perPage pageSize, pageParam number]

/-- Every page of the comparison also says how many commits there are on all of them. -/
def Service.ListsComparison (service : Service) (client : Client) (base head : Text)
    (entries : List Json) : Prop :=
  ∀ index, ∃ answer, (service (client.comparisonPage base head (index + 1))).value = .ok answer ∧
    answer.field? "commits".text = some (.list (pageOf entries index)) ∧
    answer.field? "total_commits".text = some (.int entries.length)

/-- How many pages a comparison takes; the first is asked for even if there are no commits. -/
def comparisonPages (count : Nat) : Nat :=
  max 1 ((count + (pageSize - 1)) / pageSize)

theorem comparePage_eq {answer : Json} {index : Nat}
    (hmessages : entries.map message? = found.map some)
    (hcommits : answer.field? "commits".text = some (.list (pageOf entries index)))
    (htotal : answer.field? "total_commits".text = some (.int entries.length)) :
    Client.comparePage (gatheredBefore found index) answer =
      if pageSize * (index + 1) < entries.length then
        .ok (.ask (gatheredBefore found (index + 1)))
      else .ok (.finish found) := by
  have hlength : entries.length = found.length := length_eq_of_map_some hmessages
  have hread : (answer.field? "commits".text).bind Json.list? = some (pageOf entries index) := by
    rw [hcommits]
    rfl
  rw [Client.comparePage, hread]
  simp only [messages_pageOf hmessages, gathered_append]
  have hcomplete : isComplete (gatheredBefore found (index + 1)).gathered.length answer =
      .ok (decide (entries.length ≤ pageSize * (index + 1))) := by
    rw [isComplete, htotal]
    simp only [reaches, gatheredBefore, List.length_take, ← hlength]
    congr 2
    rw [eq_iff_iff]
    omega
  have hfull := isFull_pageOf entries index
  by_cases hmore : pageSize * (index + 1) < entries.length
  · rw [if_pos hmore, if_neg (Nat.not_lt.mpr (hfull.mpr (Nat.le_of_lt hmore))), hcomplete,
      decide_eq_false (Nat.not_le.mpr hmore)]
    rfl
  · have hall : (gatheredBefore found (index + 1)).gathered = found :=
      gathered_eq_all (Nat.le_trans (Nat.le_of_eq hlength.symm) (Nat.not_lt.mp hmore))
    rw [if_neg hmore, hcomplete, decide_eq_true (Nat.not_lt.mp hmore), hall]
    split
    · rfl
    · rfl

theorem settles_compare (hmessages : entries.map message? = found.map some)
    (hlists : service.ListsComparison client base head entries) :
    service.Settles (client.compare base head)
      ((List.range (comparisonPages entries.length)).map fun index =>
        client.comparisonPage base head (index + 1)) found := by
  have hturn : ∀ index, (client.comparing base head).turn (gatheredBefore found index)
      (service (client.comparisonPage base head (index + 1))) =
        if pageSize * (index + 1) < entries.length then
          .ok (.ask (gatheredBefore found (index + 1)))
        else .ok (.finish found) := by
    intro index
    obtain ⟨answer, hvalue, hcommits, htotal⟩ := hlists index
    exact (Conversation.turn_of_value hvalue).trans (comparePage_eq hmessages hcommits htotal)
  obtain ⟨last, hlast⟩ : ∃ last, comparisonPages entries.length = last + 1 :=
    Nat.exists_eq_add_one.mpr (Nat.le_max_left 1 _)
  have hbounds : ∀ index, pageSize * (index + 1) < entries.length ↔ index < last := by
    intro index
    simp only [comparisonPages, pageSize] at hlast ⊢
    omega
  have hleads : (client.comparing base head).Leads service (.ok (.ask (gatheredBefore found 0)))
      ((List.range (last + 1)).map fun index => client.comparisonPage base head (index + 1))
      found := by
    refine Conversation.leads_numbered (client.comparing base head) (gatheredBefore found) ?_ ?_
    · intro index hindex
      exact (hturn index).trans (if_pos ((hbounds index).mpr hindex))
    · exact (hturn last).trans (if_neg fun h => Nat.lt_irrefl last ((hbounds last).mp h))
  rw [hlast]
  exact (Conversation.settles_of_leads hleads).noting _

end Comparison

section Commits

variable {client : Client} {service : Service} {head : Text} {entries found : List Json}

def Client.commitsPage (client : Client) (head : Text) (number : Nat) : Request :=
  client.request "commits".text
    [("sha".text, .string head), perPage pageSize, pageParam number]

def Service.ListsCommits (service : Service) (client : Client) (head : Text)
    (entries : List Json) : Prop :=
  ∀ index, (service (client.commitsPage head (index + 1))).value =
    .ok (.list (pageOf entries index))

/-- How many pages a listing takes: a full page may have another one after it. -/
def listingPages (count : Nat) : Nat :=
  count / pageSize + 1

theorem listPage_eq {index : Nat} (hmessages : entries.map message? = found.map some) :
    Client.listPage (gatheredBefore found index) (.list (pageOf entries index)) =
      if pageSize * (index + 1) ≤ entries.length then
        .ok (.ask (gatheredBefore found (index + 1)))
      else .ok (.finish found.reverse) := by
  have hlength : entries.length = found.length := length_eq_of_map_some hmessages
  simp only [Client.listPage, Json.list?, messages_pageOf hmessages, gathered_append]
  have hfull := isFull_pageOf entries index
  by_cases hmore : pageSize * (index + 1) ≤ entries.length
  · rw [if_pos hmore, if_neg (Nat.not_lt.mpr (hfull.mpr hmore))]
    rfl
  · have hall : (gatheredBefore found (index + 1)).gathered = found :=
      gathered_eq_all (Nat.le_trans (Nat.le_of_eq hlength.symm) (Nat.le_of_not_le hmore))
    rw [if_neg hmore, if_pos (Nat.not_le.mp fun h => hmore (hfull.mp h)), hall]

theorem settles_list (hmessages : entries.map message? = found.map some)
    (hlists : service.ListsCommits client head entries) :
    service.Settles (client.list head)
      ((List.range (listingPages entries.length)).map fun index =>
        client.commitsPage head (index + 1)) found.reverse := by
  have hturn : ∀ index, (client.listing head).turn (gatheredBefore found index)
      (service (client.commitsPage head (index + 1))) =
        if pageSize * (index + 1) ≤ entries.length then
          .ok (.ask (gatheredBefore found (index + 1)))
        else .ok (.finish found.reverse) := by
    intro index
    exact (Conversation.turn_of_value (hlists index)).trans (listPage_eq hmessages)
  have hbounds : ∀ index, pageSize * (index + 1) ≤ entries.length ↔
      index < entries.length / pageSize := by
    intro index
    simp only [pageSize]
    omega
  have hleads : (client.listing head).Leads service (.ok (.ask (gatheredBefore found 0)))
      ((List.range (listingPages entries.length)).map fun index =>
        client.commitsPage head (index + 1)) found.reverse := by
    refine Conversation.leads_numbered (client.listing head) (gatheredBefore found) ?_ ?_
    · intro index hindex
      exact (hturn index).trans (if_pos ((hbounds index).mpr hindex))
    · exact (hturn _).trans (if_neg fun h => Nat.lt_irrefl _ ((hbounds _).mp h))
  exact (Conversation.settles_of_leads hleads).noting _

end Commits

end ReleaseNotes.GitHub
