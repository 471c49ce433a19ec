import Mathlib
import ReleaseNotes.Proofs.History.SoundPages
import ReleaseNotes.Proofs.History.Survey

namespace ReleaseNotes.GitHub

/-! What the search for a tag makes of responses that are not as they should be. -/

/-- The name of a tag, or the value that stands for none. -/
def IsTag (tag? : Option Json) : Prop :=
  ∀ tag, tag? = some tag → tag = .null ∨ ∃ name, tag = .string name

/-- The entry names a tag that is not to be passed over. -/
def Names (excluded : List Text) (entry tag : Json) : Prop :=
  entry.field? "name".text = some tag ∧ isExcluded excluded tag = false

/-- The response says how far the head is ahead of a tag, if it is. -/
def Response.Measures (response : Response) (ahead : Option Int) : Prop :=
  ∃ answer, response.value = .ok answer ∧ distance answer = .ok ahead

/-- What is overlooked after some tags were found, while entries of a page are left or the next page
is to be asked for: a response that goes too deep, and that the nearest tag is no text. -/
inductive SearchOverlooks (excluded : List Text) :
    List Nearest → List Json → Bool → List Response → Prop
  | deepPage {found : List Nearest} {response : Response} {responses : List Response}
      {container : Json.Container} :
      response.value = .error (.tooDeep container) →
      SearchOverlooks excluded found [] true (response :: responses)
  | deepMeasure {found : List Nearest} {entry tag : Json} {entries : List Json} {isFull : Bool}
      {response : Response} {responses : List Response} {container : Json.Container} :
      Names excluded entry tag → response.value = .error (.tooDeep container) →
      SearchOverlooks excluded found (entry :: entries) isFull (response :: responses)
  | noneLeft {found : List Nearest} {responses : List Response} :
      ¬ IsTag ((Nearest.keepAll none found).map (·.tag)) →
      SearchOverlooks excluded found [] false responses
  | atHead {found : List Nearest} {entry tag : Json} {entries : List Json} {isFull : Bool}
      {response : Response} {responses : List Response} :
      Names excluded entry tag → response.Measures (some 0) →
      ¬ IsTag ((Nearest.keepAll none (found ++ [⟨tag, 0⟩])).map (·.tag)) →
      SearchOverlooks excluded found (entry :: entries) isFull (response :: responses)
  | page {found : List Nearest} {entries : List Json} {response : Response}
      {responses : List Response} :
      response.value = .ok (.list entries) →
      SearchOverlooks excluded found entries (decide (pageSize ≤ entries.length)) responses →
      SearchOverlooks excluded found [] true (response :: responses)
  | passed {found : List Nearest} {entry tag : Json} {entries : List Json} {isFull : Bool}
      {responses : List Response} :
      entry.field? "name".text = some tag → isExcluded excluded tag = true →
      SearchOverlooks excluded found entries isFull responses →
      SearchOverlooks excluded found (entry :: entries) isFull responses
  | unreachable {found : List Nearest} {entry tag : Json} {entries : List Json} {isFull : Bool}
      {response : Response} {responses : List Response} :
      Names excluded entry tag → response.Measures none →
      SearchOverlooks excluded found entries isFull responses →
      SearchOverlooks excluded found (entry :: entries) isFull (response :: responses)
  | ahead {found : List Nearest} {entry tag : Json} {entries : List Json} {isFull : Bool}
      {count : Int} {response : Response} {responses : List Response} :
      Names excluded entry tag → response.Measures (some count) → count ≠ 0 →
      SearchOverlooks excluded (found ++ [⟨tag, count⟩]) entries isFull responses →
      SearchOverlooks excluded found (entry :: entries) isFull (response :: responses)

section Search

variable {client : Client} {head : Text} {excluded : List Text} {entry tag : Json}
  {entries : List Json} {isFull : Bool} {page : Nat} {best : Option Nearest} {found : List Nearest}
  {response : Response} {responses : List Response}

theorem advance_of_names (h : Names excluded entry tag) :
    TagSearch.advance excluded isFull page best (entry :: entries) =
      .ok (.ask (.measuring tag entries isFull page best)) := by
  rw [TagSearch.advance, h.1]
  simp only [h.2, Bool.false_eq_true, if_false]

theorem advance_of_excluded (htag : entry.field? "name".text = some tag)
    (hexcluded : isExcluded excluded tag = true) :
    TagSearch.advance excluded isFull page best (entry :: entries) =
      TagSearch.advance excluded isFull page best entries := by
  rw [TagSearch.advance, htag]
  simp only [hexcluded, if_true]

/-- How the search ends after a step. -/
def endOf (client : Client) (head : Text) (excluded : List Text) (step : TagSearch.Step)
    (responses : List Response) : Except Error (Option Json) :=
  (client.searching head excluded).resume step responses

theorem endOf_of_error {error : Error} (state : TagSearch) (h : response.value = .error error)
    (responses : List Response) :
    endOf client head excluded (.ok (.ask state)) (response :: responses) = .error error :=
  (client.searching head excluded).resume_of_error state h responses

theorem endOf_of_value {answer : Json} (state : TagSearch) (h : response.value = .ok answer)
    (responses : List Response) :
    endOf client head excluded (.ok (.ask state)) (response :: responses) =
      endOf client head excluded (TagSearch.receive excluded state answer) responses :=
  (client.searching head excluded).resume_of_value state h responses

theorem endOf_listing (h : response.value = .ok (.list entries)) :
    endOf client head excluded (.ok (.ask (.listing page best))) (response :: responses) =
      endOf client head excluded
        (TagSearch.advance excluded (decide (pageSize ≤ entries.length)) page best entries)
        responses :=
  endOf_of_value _ h responses

/-- What one measured tag leads to. -/
def measured (excluded : List Text) (tag : Json) (entries : List Json) (isFull : Bool) (page : Nat)
    (best : Option Nearest) : Option Int → TagSearch.Step
  | none => TagSearch.advance excluded isFull page best entries
  | some count =>
      let best := Nearest.keep best tag count
      if count = 0 then .ok (.finish (best.map (·.tag)))
      else TagSearch.advance excluded isFull page best entries

theorem endOf_measuring {ahead : Option Int} (h : response.Measures ahead) :
    endOf client head excluded (.ok (.ask (.measuring tag entries isFull page best)))
        (response :: responses) =
      endOf client head excluded (measured excluded tag entries isFull page best ahead)
        responses := by
  obtain ⟨answer, hvalue, hdistance⟩ := h
  rw [endOf_of_value _ hvalue, TagSearch.receive, hdistance]
  cases ahead <;> rfl

theorem not_isSound_of_searchOverlooks (client : Client) (head : Text)
    (h : SearchOverlooks excluded found entries isFull responses) (page : Nat) :
    ¬ IsSound IsTag (endOf client head excluded
      (TagSearch.advance excluded isFull page (Nearest.keepAll none found) entries) responses) := by
  induction h generalizing page with
  | deepPage hvalue =>
      rw [TagSearch.advance, if_pos rfl, endOf_of_error _ hvalue]
      intro hsound
      cases hsound
  | deepMeasure hnames hvalue =>
      rw [advance_of_names hnames, endOf_of_error _ hvalue]
      intro hsound
      cases hsound
  | noneLeft htag => exact htag
  | atHead hnames hmeasures htag =>
      rw [advance_of_names hnames, endOf_measuring hmeasures, measured]
      simp only [Nearest.keepAll_concat] at htag
      exact htag
  | page hvalue _ ih =>
      rw [TagSearch.advance, if_pos rfl, endOf_listing hvalue]
      exact ih (page + 1)
  | passed htag hexcluded _ ih =>
      rw [advance_of_excluded htag hexcluded]
      exact ih page
  | unreachable hnames hmeasures _ ih =>
      rw [advance_of_names hnames, endOf_measuring hmeasures]
      exact ih page
  | ahead hnames hmeasures hcount _ ih =>
      rw [advance_of_names hnames, endOf_measuring hmeasures, measured, if_neg hcount]
      simp only [Nearest.keepAll_concat] at ih
      exact ih page

theorem isExpected_of_distance {answer : Json} {error : Error}
    (h : distance answer = .error error) : error.isUnexpected = false := by
  unfold distance at h
  split at h
  · split at h
    · split at h
      · split at h
        · cases h
        · cases h
        · cases h
          rfl
      · cases h
    · cases h
  · cases h
    rfl

/-- On one page: it is enough to know it for an entry that is to be measured and for the end. -/
theorem searchOverlooks_of_entries
    (hend : ¬ IsSound IsTag (endOf client head excluded
        (TagSearch.advance excluded isFull page (Nearest.keepAll none found) []) responses) →
      SearchOverlooks excluded found [] isFull responses)
    (hmeasured : ∀ entry tag entries, Names excluded entry tag →
      ¬ IsSound IsTag (endOf client head excluded
        (.ok (.ask (.measuring tag entries isFull page (Nearest.keepAll none found)))) responses) →
      SearchOverlooks excluded found (entry :: entries) isFull responses)
    (h : ¬ IsSound IsTag (endOf client head excluded
      (TagSearch.advance excluded isFull page (Nearest.keepAll none found) entries) responses)) :
    SearchOverlooks excluded found entries isFull responses := by
  induction entries with
  | nil => exact hend h
  | cons entry entries ih =>
      cases hname : entry.field? "name".text with
      | none =>
          rw [TagSearch.advance, hname] at h
          exact absurd rfl h
      | some tag =>
          cases hexcluded : isExcluded excluded tag with
          | true =>
              rw [advance_of_excluded hname hexcluded] at h
              exact .passed hname hexcluded (ih h)
          | false =>
              have hnames : Names excluded entry tag := ⟨hname, hexcluded⟩
              rw [advance_of_names hnames] at h
              exact hmeasured entry tag entries hnames h

/-- The response to the request for a page. -/
theorem searchOverlooks_of_listing
    (hlater : ∀ entries, ¬ IsSound IsTag (endOf client head excluded
        (TagSearch.advance excluded (decide (pageSize ≤ entries.length)) page
          (Nearest.keepAll none found) entries) responses) →
      SearchOverlooks excluded found entries (decide (pageSize ≤ entries.length)) responses)
    (h : ¬ IsSound IsTag (endOf client head excluded
      (.ok (.ask (.listing page (Nearest.keepAll none found)))) (response :: responses))) :
    SearchOverlooks excluded found [] true (response :: responses) := by
  cases hvalue : response.value with
  | error error =>
      obtain ⟨container, hdeep⟩ := Conversation.tooDeep_of_not_isSound hvalue h
      exact .deepPage hdeep
  | ok answer =>
      rw [endOf_of_value _ hvalue, TagSearch.receive] at h
      cases answer with
      | list entries => exact .page hvalue (hlater entries h)
      | null | bool | int | float | string | object => exact absurd rfl h

/-- The response to the request for a distance. -/
theorem searchOverlooks_of_measuring
    (hlater : ∀ found, ¬ IsSound IsTag (endOf client head excluded
        (TagSearch.advance excluded isFull page (Nearest.keepAll none found) entries) responses) →
      SearchOverlooks excluded found entries isFull responses)
    (hnames : Names excluded entry tag)
    (h : ¬ IsSound IsTag (endOf client head excluded
      (.ok (.ask (.measuring tag entries isFull page (Nearest.keepAll none found))))
      (response :: responses))) :
    SearchOverlooks excluded found (entry :: entries) isFull (response :: responses) := by
  cases hvalue : response.value with
  | error error =>
      obtain ⟨container, hdeep⟩ := Conversation.tooDeep_of_not_isSound hvalue h
      exact .deepMeasure hnames hdeep
  | ok answer =>
      cases hdistance : distance answer with
      | error error =>
          rw [endOf_of_value _ hvalue, TagSearch.receive, hdistance] at h
          exact absurd (isExpected_of_distance hdistance) h
      | ok ahead =>
          have hmeasures : response.Measures ahead := ⟨answer, hvalue, hdistance⟩
          rw [endOf_measuring hmeasures] at h
          cases ahead with
          | none => exact .unreachable hnames hmeasures (hlater found h)
          | some count =>
              have hkept := Nearest.keepAll_concat none found ⟨tag, count⟩
              rw [measured, ← hkept] at h
              by_cases hcount : count = 0
              · subst hcount
                exact .atHead hnames hmeasures h
              · rw [if_neg hcount] at h
                exact .ahead hnames hmeasures hcount (hlater _ h)

theorem searchOverlooks_of_not_isSound
    (h : ¬ IsSound IsTag (endOf client head excluded
      (TagSearch.advance excluded isFull page (Nearest.keepAll none found) entries) responses)) :
    SearchOverlooks excluded found entries isFull responses := by
  induction responses generalizing found entries isFull page with
  | nil =>
      refine searchOverlooks_of_entries (fun hend => ?_) (fun _ _ _ _ hask => absurd rfl hask) h
      cases isFull with
      | true => exact absurd rfl hend
      | false => exact .noneLeft hend
  | cons response responses ih =>
      refine searchOverlooks_of_entries (fun hend => ?_)
        (fun _ _ _ => searchOverlooks_of_measuring fun _ => ih) h
      cases isFull with
      | true => exact searchOverlooks_of_listing (fun _ => ih) hend
      | false => exact .noneLeft hend

theorem isSound_latestTag_iff (client : Client) (head : Text) (excluded : List Text)
    (responses : List Response) :
    IsSound IsTag (client.latestTag head excluded responses).result ↔
      ¬ SearchOverlooks excluded [] [] true responses := by
  rw [Client.latestTag, result_noting]
  -- The search starts as it goes on after a full page on which nothing was found.
  show IsSound IsTag (endOf client head excluded (TagSearch.advance excluded true 0
    (Nearest.keepAll none []) []) responses) ↔ _
  exact ⟨fun hsound h => not_isSound_of_searchOverlooks client head h 0 hsound,
    fun h => of_not_not fun hsound => h (searchOverlooks_of_not_isSound hsound)⟩

end Search

/-- What a client reads off its responses is a failure of the server or of the type that was asked
for, unless something that is not as it should be is overlooked. -/
theorem isSound_iff (client : Client) (base head : Text) (excluded : List Text)
    (responses : List Response) :
    (IsSound AreTexts (client.compare base head responses).result ↔
        ¬ GatheringOverlooks comparedEntries? .stated [] responses) ∧
      (IsSound AreTexts (client.list head responses).result ↔
        ¬ GatheringOverlooks Json.list? .unstated [] responses) ∧
      (IsSound IsTag (client.latestTag head excluded responses).result ↔
        ¬ SearchOverlooks excluded [] [] true responses) :=
  ⟨isSound_compare_iff client base head responses, isSound_list_iff client head responses,
    isSound_latestTag_iff client head excluded responses⟩

/-- A message that is a number is returned as one. -/
theorem not_isSound_number :
    let client : Client := ⟨"o/r".text, .null, Client.defaultApiUrl, .null⟩
    let response := Response.answered 200 (Utf8.encodeChars
      "\x7b\"commits\": [\x7b\"commit\": \x7b\"message\": 5\x7d\x7d]\x7d".toList)
    (client.compare "a".text "b".text [response]).result = .ok [.int 5] ∧
      ¬ IsSound AreTexts (client.compare "a".text "b".text [response]).result := by
  intro client response
  let answer := Json.object [("commits".text,
    .list [.object [("commit".text, .object [("message".text, .int 5)])]])]
  have hread : Json.read (Text.ofChars
      "\x7b\"commits\": [\x7b\"commit\": \x7b\"message\": 5\x7d\x7d]\x7d".toList) =
        .ok answer := by
    cbv
  have hholds : response.Holds comparedEntries? answer [.int 5] :=
    ⟨Response.value_of_read hread, _, rfl, rfl⟩
  have hresult : (client.compare "a".text "b".text [response]).result = .ok [.int 5] :=
    compare_of_short hholds (by decide)
  have htexts : ¬ AreTexts [.int 5] := fun h => h (.int 5) List.mem_cons_self rfl
  exact ⟨hresult, not_isSound_of_ok hresult htexts⟩

end ReleaseNotes.GitHub
