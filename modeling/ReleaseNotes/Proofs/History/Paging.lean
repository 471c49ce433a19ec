import Mathlib
import ReleaseNotes.Proofs.History.Survey

namespace ReleaseNotes.GitHub

/-! However many entries there are, every one of them is found once, and no page is asked for twice
or left out. -/

/-- A comparison and a listing of commits find the messages of all their pages. A search that no tag
ends early goes through all pages of the tags, and through all tags of each. -/
theorem paging_complete (client : Client) (head : Text) :
    (∀ (service : Service) (base : Text) (entries found : List Json),
      entries.map message? = found.map some →
      service.ListsComparison client base head entries →
        service.Settles (client.compare base head)
          ((List.range (comparisonPages entries.length)).map fun index =>
            client.comparisonPage base head (index + 1)) found) ∧
    (∀ (service : Service) (entries found : List Json),
      entries.map message? = found.map some →
      service.ListsCommits client head entries →
        service.Settles (client.list head)
          ((List.range (listingPages entries.length)).map fun index =>
            client.commitsPage head (index + 1)) found.reverse) ∧
    (∀ (service : Service) (entries names : List Json) (excluded : List Text)
      (ahead : Json → Option Nat),
      entries.map (Json.field? "name".text) = names.map some →
      service.ListsTags client head entries →
      (∀ tag ∈ names, isExcluded excluded tag = false →
        service.Measures client head tag (ahead tag) ∧ ahead tag ≠ some 0) →
        ∃ (inquiries : List Inquiry) (tag : Option Json),
          service.Settles (client.latestTag head excluded)
            (inquiries.map (Inquiry.request client head)) tag ∧
          inquiries.filterMap Inquiry.page? =
            (List.range (listingPages entries.length)).map (· + 1) ∧
          inquiries.filterMap Inquiry.tag? = names.filter fun tag => !isExcluded excluded tag) := by
  refine ⟨fun _ _ _ _ => settles_compare, fun _ _ _ => settles_list, ?_⟩
  intro service entries names excluded ahead hnames htags hmeasures
  have hlength : entries.length = names.length := length_eq_of_map_some hnames
  have hfar : ∀ inquiry ∈ survey excluded names, Inquiry.isAtHead ahead inquiry = false := by
    intro inquiry hinquiry
    cases inquiry with
    | tags page => rfl
    | measure tag =>
        have htag : tag ∈ included excluded names := by
          rw [← tags_survey]
          exact List.mem_filterMap.mpr ⟨.measure tag, hinquiry, rfl⟩
        obtain ⟨hmem, hincluded⟩ := List.mem_filter.mp htag
        obtain ⟨_, hahead⟩ := hmeasures tag hmem (by simpa using hincluded)
        exact beq_false_of_ne hahead
  have hsettles := settles_latestTag hnames htags
    fun tag htag hexcluded => (hmeasures tag htag hexcluded).1
  rw [upTo_eq_self hfar] at hsettles
  exact ⟨_, _, hsettles, hlength ▸ pages_survey names, tags_survey names⟩

theorem paging_complete_one_page :
    let client : Client := ⟨"o/r".text, .null, Client.defaultApiUrl, .null⟩
    let head := "main".text
    let base := "v1".text
    let answer := fun body : String => Response.answered 200 (Utf8.encodeChars body.toList)
    let listed := "[\x7b\"commit\":\x7b\"message\":\"b\"\x7d\x7d]"
    let service : Service := fun request =>
      match request.params with
      | [_, (_, .int 1)] =>
          if request.url = client.url "tags".text then answer "[\x7b\"name\":\"v1\"\x7d]"
          else answer ("\x7b\"total_commits\":1,\"commits\":" ++ listed ++ "\x7d")
      | [_, _] =>
          if request.url = client.url "tags".text then answer "[]"
          else answer "\x7b\"total_commits\":1,\"commits\":[]\x7d"
      | [_, _, (_, .int 1)] => answer listed
      | [_, _, _] => answer "[]"
      | _ => answer "\x7b\"status\":\"diverged\"\x7d"
    let found := [Json.string "b".text]
    let entries := found.map fun message =>
      Json.object [("commit".text, .object [("message".text, message)])]
    let tags := [Json.object [("name".text, .string "v1".text)]]
    let names := [Json.string "v1".text]
    entries.map message? = found.map some ∧
      service.ListsComparison client base head entries ∧
      service.ListsCommits client head entries ∧
      tags.map (Json.field? "name".text) = names.map some ∧
      service.ListsTags client head tags ∧
      (∀ tag ∈ names, isExcluded [] tag = false →
        service.Measures client head tag none ∧ (none : Option Nat) ≠ some 0) ∧
      service.Settles (client.compare base head) [client.comparisonPage base head 1] found ∧
      service.Settles (client.list head) [client.commitsPage head 1] found.reverse ∧
      ∃ (inquiries : List Inquiry) (tag : Option Json),
        service.Settles (client.latestTag head [])
          (inquiries.map (Inquiry.request client head)) tag ∧
        inquiries.filterMap Inquiry.page? = [1] ∧ inquiries.filterMap Inquiry.tag? = names := by
  intro client head base answer listed service found entries tags names
  have hmessages : entries.map message? = found.map some := rfl
  have hnames : tags.map (Json.field? "name".text) = names.map some := rfl
  have htagsUrl : client.url (Client.comparison base head) ≠ client.url "tags".text := by decide
  have hempty : (answer "[]").value = .ok (.list []) := Response.value_of_read (by cbv)
  have hlisted : (answer listed).value = .ok (.list entries) := Response.value_of_read (by cbv)
  have hcomparison : service.ListsComparison client base head entries := by
    intro index
    cases index with
    | zero =>
        exact ⟨.object [("total_commits".text, .int 1), ("commits".text, .list entries)],
          (congrArg Response.value (if_neg htagsUrl)).trans (Response.value_of_read (by cbv)),
          rfl, rfl⟩
    | succ index =>
        exact ⟨.object [("total_commits".text, .int 1), ("commits".text, .list [])],
          (congrArg Response.value (if_neg htagsUrl)).trans (Response.value_of_read (by cbv)),
          rfl, rfl⟩
  have hcommits : service.ListsCommits client head entries := by
    intro index
    cases index with
    | zero => exact hlisted
    | succ index => exact hempty
  have htags : service.ListsTags client head tags := by
    intro index
    cases index with
    | zero => exact (congrArg Response.value (if_pos rfl)).trans (Response.value_of_read (by cbv))
    | succ index => exact (congrArg Response.value (if_pos rfl)).trans hempty
  have hmeasures : ∀ tag ∈ names, isExcluded [] tag = false →
      service.Measures client head tag none ∧ (none : Option Nat) ≠ some 0 := by
    intro tag htag _
    rw [List.mem_singleton.mp htag]
    have hdiverged : (answer "\x7b\"status\":\"diverged\"\x7d").value =
        .ok (.object [("status".text, .string "diverged".text)]) := Response.value_of_read (by cbv)
    exact ⟨⟨_, hdiverged, rfl⟩, by decide⟩
  obtain ⟨hcompare, hlist, hsearch⟩ := paging_complete client head
  have hcompare := hcompare service base entries found hmessages hcomparison
  have hlist := hlist service entries found hmessages hcommits
  rw [show comparisonPages entries.length = 1 by decide] at hcompare
  rw [show listingPages entries.length = 1 by decide] at hlist
  obtain ⟨inquiries, tag, hsettles, hpages, hseen⟩ :=
    hsearch service tags names [] (fun _ => none) hnames htags hmeasures
  exact ⟨hmessages, hcomparison, hcommits, hnames, htags, hmeasures, hcompare, hlist,
    inquiries, tag, hsettles, hpages.trans (by decide), hseen.trans rfl⟩

end ReleaseNotes.GitHub
