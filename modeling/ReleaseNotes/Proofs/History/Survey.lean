import ReleaseNotes.Proofs.History.Pages

namespace ReleaseNotes.GitHub

/-!
The search for a tag, request by request. It asks for the pages of the tags in turn and measures
each tag of a page before it asks for the next one; a tag at the head itself is the last one
measured.
-/

inductive Inquiry where
  | tags (page : Nat)
  | measure (tag : Json)

namespace Inquiry

def request (client : Client) (head : Text) : Inquiry → Request
  | .tags page => client.request "tags".text [perPage pageSize, pageParam page]
  | .measure tag => client.request (Client.comparison tag.plain head) [perPage 1]

def page? : Inquiry → Option Nat
  | .tags page => some page
  | .measure _ => none

def tag? : Inquiry → Option Json
  | .tags _ => none
  | .measure tag => some tag

def isAtHead (ahead : Json → Option Nat) (inquiry : Inquiry) : Bool :=
  inquiry.tag?.any fun tag => ahead tag == some 0

end Inquiry

section Survey

variable (excluded : List Text) (ahead : Json → Option Nat)

/-- The tags that the search does not pass over. -/
def included (names : List Json) : List Json :=
  names.filter fun tag => !isExcluded excluded tag

def surveyFrom (names : List Json) (index count : Nat) : List Inquiry :=
  (List.range' index count).flatMap fun index =>
    .tags (index + 1) :: (included excluded (pageOf names index)).map .measure

/-- Every page of the tags, and after each page its tags. -/
def survey (names : List Json) : List Inquiry :=
  surveyFrom excluded names 0 (listingPages names.length)

/-- The tags that the head can be reached from, each with its distance. -/
def reachable (names : List Json) : List Nearest :=
  (included excluded names).filterMap fun tag =>
    (ahead tag).map fun count => Nearest.mk tag (Int.ofNat count)

variable {excluded ahead} {tag : Json}

theorem included_cons_of_excluded (h : isExcluded excluded tag = true) (names : List Json) :
    included excluded (tag :: names) = included excluded names :=
  List.filter_cons_of_neg (by simp [h])

theorem included_cons (h : isExcluded excluded tag = false) (names : List Json) :
    included excluded (tag :: names) = tag :: included excluded names :=
  List.filter_cons_of_pos (by simp [h])

theorem surveyFrom_succ (names : List Json) (index count : Nat) :
    surveyFrom excluded names index (count + 1) =
      .tags (index + 1) :: ((included excluded (pageOf names index)).map .measure ++
        surveyFrom excluded names (index + 1) count) := by
  rw [surveyFrom, List.range'_succ, List.flatMap_cons]
  rfl

theorem reachable_drop (names : List Json) (index : Nat) :
    reachable excluded ahead (names.drop (pageSize * index)) =
      reachable excluded ahead (pageOf names index) ++
        reachable excluded ahead (names.drop (pageSize * (index + 1))) := by
  rw [← pageOf_append_drop, reachable, included, List.filter_append, List.filterMap_append]
  rfl

theorem survey_eq (names : List Json) :
    survey excluded names = (List.range (listingPages names.length)).flatMap fun index =>
      .tags (index + 1) :: (included excluded (pageOf names index)).map .measure := by
  rw [survey, surveyFrom, List.range_eq_range']

theorem pages_survey (names : List Json) :
    (survey excluded names).filterMap Inquiry.page? =
      (List.range (listingPages names.length)).map (· + 1) := by
  have hpage : ∀ index, (Inquiry.tags (index + 1) ::
      (included excluded (pageOf names index)).map .measure).filterMap Inquiry.page? =
        [index + 1] := by
    intro index
    rw [List.filterMap_cons, Inquiry.page?, List.filterMap_map]
    exact congrArg _ (List.filterMap_eq_nil_iff.mpr fun _ _ => rfl)
  rw [survey_eq, List.filterMap_flatMap]
  simp only [hpage]
  exact List.map_eq_flatMap.symm

theorem tags_survey (names : List Json) :
    (survey excluded names).filterMap Inquiry.tag? = included excluded names := by
  have hpage : ∀ index, (Inquiry.tags (index + 1) ::
      (included excluded (pageOf names index)).map .measure).filterMap Inquiry.tag? =
        included excluded (pageOf names index) := by
    intro index
    rw [List.filterMap_cons, Inquiry.tag?, List.filterMap_map]
    exact List.filterMap_some
  have hall : names.length ≤ pageSize * listingPages names.length := by
    simp only [pageSize, listingPages]
    omega
  calc (survey excluded names).filterMap Inquiry.tag?
      = (List.range (listingPages names.length)).flatMap fun index =>
          included excluded (pageOf names index) := by
        rw [survey_eq, List.filterMap_flatMap]
        simp only [hpage]
    _ = included excluded ((List.range (listingPages names.length)).flatMap (pageOf names)) :=
        List.filter_flatMap.symm
    _ = included excluded names := by rw [flatMap_pageOf, List.take_of_length_le hall]

end Survey

/-- The elements of a list up to and with the first that has a property. -/
def upTo (p : α → Bool) : List α → List α
  | [] => []
  | a :: as => if p a then [a] else a :: upTo p as

theorem upTo_eq_self {p : α → Bool} {as : List α} (h : ∀ a ∈ as, p a = false) :
    upTo p as = as := by
  induction as with
  | nil => rfl
  | cons a as ih =>
      obtain ⟨ha, has⟩ := List.forall_mem_cons.mp h
      rw [upTo, ha, ih has]
      rfl

theorem upTo_prefix (p : α → Bool) (as : List α) : upTo p as <+: as := by
  induction as with
  | nil => exact List.prefix_refl []
  | cons a as ih =>
      rw [upTo]
      split
      · exact ⟨as, rfl⟩
      · exact (List.prefix_cons_inj a).mpr ih

theorem eq_nil_of_upTo {p : α → Bool} {as before after : List α} {a : α}
    (h : upTo p as = before ++ a :: after) (ha : p a = true) : after = [] := by
  induction as generalizing before with
  | nil => simp [upTo] at h
  | cons first as ih =>
      rw [upTo] at h
      cases before with
      | nil =>
          split at h
          · exact (List.cons.inj h).2.symm
          · rename_i hfirst
            obtain ⟨rfl, _⟩ := List.cons.inj h
            exact absurd ha hfirst
      | cons b before =>
          split at h
          · simp at h
          · exact ih (List.cons.inj h).2

namespace Nearest

def keepAll (best : Option Nearest) (found : List Nearest) : Option Nearest :=
  found.foldl (fun best tag => keep best tag.tag tag.distance) best

theorem keepAll_concat (best : Option Nearest) (found : List Nearest) (tag : Nearest) :
    keepAll best (found ++ [tag]) = keep (keepAll best found) tag.tag tag.distance := by
  rw [keepAll, List.foldl_append]
  rfl

/-- Nothing is nearer than a tag at the head. -/
theorem keepAll_of_at_head {best : Nearest} {found : List Nearest} (hbest : best.distance ≤ 0)
    (hfound : ∀ tag ∈ found, 0 ≤ tag.distance) : keepAll (some best) found = some best := by
  induction found with
  | nil => rfl
  | cons tag found ih =>
      obtain ⟨htag, hfound⟩ := List.forall_mem_cons.mp hfound
      have hkept : keep (some best) tag.tag tag.distance = some best := by
        rw [keep, if_neg (by omega)]
      rw [keepAll, List.foldl_cons, hkept]
      exact ih hfound

theorem keep_at_head (best : Option Nearest) (tag : Json) :
    ∃ kept, keep best tag 0 = some kept ∧ kept.distance ≤ 0 := by
  cases best with
  | none => exact ⟨⟨tag, 0⟩, rfl, Int.le_refl 0⟩
  | some known =>
      by_cases h : 0 < known.distance
      · exact ⟨⟨tag, 0⟩, if_pos h, Int.le_refl 0⟩
      · exact ⟨known, if_neg h, Int.not_lt.mp h⟩

/-- After a tag at the head no other tag is kept. -/
theorem keepAll_at_head (best : Option Nearest) (tag : Json) {later : List Nearest}
    (hlater : ∀ next ∈ later, 0 ≤ next.distance) :
    keepAll best (⟨tag, 0⟩ :: later) = keep best tag 0 := by
  obtain ⟨kept, hkept, hnearest⟩ := keep_at_head best tag
  rw [keepAll, List.foldl_cons, hkept]
  exact keepAll_of_at_head hnearest hlater

end Nearest

section Search

variable {client : Client} {service : Service} {head : Text} {excluded : List Text}
  {ahead : Json → Option Nat}

def Service.ListsTags (service : Service) (client : Client) (head : Text)
    (entries : List Json) : Prop :=
  ∀ index, (service ((Inquiry.tags (index + 1)).request client head)).value =
    .ok (.list (pageOf entries index))

/-- Asked for the distance of a tag the service says how far the head is ahead of it, if it is. -/
def Service.Measures (service : Service) (client : Client) (head : Text) (tag : Json)
    (ahead : Option Nat) : Prop :=
  ∃ answer, (service ((Inquiry.measure tag).request client head)).value = .ok answer ∧
    distance answer = .ok (ahead.map Int.ofNat)

theorem distance_nonneg {names : List Json} :
    ∀ tag ∈ reachable excluded ahead names, 0 ≤ tag.distance := by
  intro tag htag
  obtain ⟨name, _, hname⟩ := List.mem_filterMap.mp htag
  obtain ⟨count, _, rfl⟩ := Option.map_eq_some_iff.mp hname
  exact Int.natCast_nonneg count

/-- What one measured tag leads to: the rest of the page, or the end if the tag is at the head. -/
theorem receive_measuring (excluded : List Text) (tag : Json) (ahead : Option Nat) {answer : Json}
    (entries : List Json) (isFull : Bool) (page : Nat) (best : Option Nearest) :
    distance answer = .ok (ahead.map Int.ofNat) →
      TagSearch.receive excluded (.measuring tag entries isFull page best) answer =
        match ahead with
        | none => TagSearch.advance excluded isFull page best entries
        | some 0 => .ok (.finish ((Nearest.keep best tag 0).map (·.tag)))
        | some (count + 1) => TagSearch.advance excluded isFull page
            (Nearest.keep best tag (Int.ofNat (count + 1))) entries := by
  intro hdistance
  rw [TagSearch.receive, hdistance]
  rcases ahead with _ | _ | count
  · rfl
  · rfl
  · rfl

theorem leads_measuring {tag answer : Json} {entries : List Json} {isFull : Bool} {page : Nat}
    {best : Option Nearest} {requests : List Request} {result : Option Json}
    (hvalue : (service ((Inquiry.measure tag).request client head)).value = .ok answer)
    (h : (client.searching head excluded).Leads service
      (TagSearch.receive excluded (.measuring tag entries isFull page best) answer)
      requests result) :
    (client.searching head excluded).Leads service
      (.ok (.ask (TagSearch.measuring tag entries isFull page best)))
      ((Inquiry.measure tag).request client head :: requests) result :=
  Conversation.leads_ask_of_value (client.searching head excluded)
    (TagSearch.measuring tag entries isFull page best) hvalue h

/-- From within a page: its other tags are measured, unless one is at the head, and then comes what
comes after the page. -/
theorem leads_advance {entries names : List Json} {isFull : Bool} {page : Nat}
    {later : List Inquiry} {others : List Nearest}
    (hnames : entries.map (Json.field? "name".text) = names.map some)
    (hmeasures : ∀ tag ∈ names, isExcluded excluded tag = false →
      service.Measures client head tag (ahead tag))
    (hothers : ∀ tag ∈ others, 0 ≤ tag.distance)
    (hlater : ∀ best, (client.searching head excluded).Leads service
      (TagSearch.advance excluded isFull page best [])
      ((upTo (Inquiry.isAtHead ahead) later).map (Inquiry.request client head))
      ((Nearest.keepAll best others).map (·.tag)))
    (best : Option Nearest) :
    (client.searching head excluded).Leads service
      (TagSearch.advance excluded isFull page best entries)
      ((upTo (Inquiry.isAtHead ahead)
        ((included excluded names).map .measure ++ later)).map (Inquiry.request client head))
      ((Nearest.keepAll best (reachable excluded ahead names ++ others)).map (·.tag)) := by
  induction names generalizing entries best with
  | nil =>
      rw [List.map_eq_nil_iff.mp hnames]
      exact hlater best
  | cons tag names ih =>
      obtain ⟨entry, entries, rfl⟩ : ∃ entry rest, entries = entry :: rest :=
        List.exists_cons_of_ne_nil fun hnil => by
          rw [hnil] at hnames
          cases hnames
      obtain ⟨hentry, hentries⟩ := List.cons.inj hnames
      obtain ⟨htag, hmeasures⟩ := List.forall_mem_cons.mp hmeasures
      have hrest := ih hentries hmeasures
      rw [TagSearch.advance, hentry]
      simp only
      cases hexcluded : isExcluded excluded tag with
      | true =>
          rw [reachable, included_cons_of_excluded hexcluded]
          exact hrest best
      | false =>
          obtain ⟨answer, hvalue, hdistance⟩ := htag hexcluded
          have hreceive :=
            receive_measuring excluded tag (ahead tag) entries isFull page best hdistance
          rw [reachable, included_cons hexcluded, List.map_cons, List.cons_append, upTo,
            List.filterMap_cons, Inquiry.isAtHead, Inquiry.tag?, Option.any_some]
          rcases hahead : ahead tag with _ | _ | count
          · rw [hahead] at hreceive
            exact leads_measuring hvalue (hreceive ▸ hrest best)
          · rw [hahead] at hreceive
            have hall : Nearest.keepAll best
                (⟨tag, 0⟩ :: (reachable excluded ahead names ++ others)) = Nearest.keep best tag 0 :=
              Nearest.keepAll_at_head best tag
                (List.forall_mem_append.mpr ⟨distance_nonneg, hothers⟩)
            show (client.searching head excluded).Leads service _
              [(Inquiry.measure tag).request client head]
              ((Nearest.keepAll best
                (⟨tag, 0⟩ :: (reachable excluded ahead names ++ others))).map (·.tag))
            rw [hall]
            exact leads_measuring hvalue (hreceive ▸ Conversation.Leads.finish _)
          · rw [hahead] at hreceive
            exact leads_measuring hvalue (hreceive ▸ hrest _)

/-- From the request for a page: what is on the page, and then what comes after it. -/
theorem leads_page {entries names : List Json} {index count : Nat}
    (hnames : entries.map (Json.field? "name".text) = names.map some)
    (htags : service.ListsTags client head entries)
    (hmeasures : ∀ tag ∈ names, isExcluded excluded tag = false →
      service.Measures client head tag (ahead tag))
    (hlater : ∀ best, (client.searching head excluded).Leads service
      (TagSearch.advance excluded (decide (pageSize * (index + 1) ≤ names.length)) (index + 1)
        best [])
      ((upTo (Inquiry.isAtHead ahead) (surveyFrom excluded names (index + 1) count)).map
        (Inquiry.request client head))
      ((Nearest.keepAll best
        (reachable excluded ahead (names.drop (pageSize * (index + 1))))).map (·.tag)))
    (best : Option Nearest) :
    (client.searching head excluded).Leads service
      (.ok (.ask (TagSearch.listing (index + 1) best)))
      ((upTo (Inquiry.isAtHead ahead) (surveyFrom excluded names index (count + 1))).map
        (Inquiry.request client head))
      ((Nearest.keepAll best (reachable excluded ahead (names.drop (pageSize * index)))).map
        (·.tag)) := by
  have hlength : entries.length = names.length := length_eq_of_map_some hnames
  have hfull : decide (pageSize ≤ (pageOf entries index).length) =
      decide (pageSize * (index + 1) ≤ names.length) := by
    rw [decide_eq_decide, isFull_pageOf, hlength]
  have hpage : (pageOf entries index).map (Json.field? "name".text) =
      (pageOf names index).map some := by
    rw [map_pageOf, map_pageOf, hnames]
  have hadvance := leads_advance hpage
    (fun tag htag => hmeasures tag (List.mem_of_mem_drop (List.mem_of_mem_take htag)))
    distance_nonneg hlater best
  rw [surveyFrom_succ, reachable_drop, upTo, Inquiry.isAtHead, Inquiry.tag?]
  refine Conversation.leads_ask_of_value (client.searching head excluded)
    (TagSearch.listing (index + 1) best) (htags index) ?_
  show (client.searching head excluded).Leads service
    (TagSearch.advance excluded (decide (pageSize ≤ (pageOf entries index).length)) (index + 1)
      best (pageOf entries index)) _ _
  rw [hfull]
  exact hadvance

theorem leads_listing {entries names : List Json}
    (hnames : entries.map (Json.field? "name".text) = names.map some)
    (htags : service.ListsTags client head entries)
    (hmeasures : ∀ tag ∈ names, isExcluded excluded tag = false →
      service.Measures client head tag (ahead tag))
    {index count : Nat} (hcount : index + count = names.length / pageSize)
    (best : Option Nearest) :
    (client.searching head excluded).Leads service
      (.ok (.ask (TagSearch.listing (index + 1) best)))
      ((upTo (Inquiry.isAtHead ahead) (surveyFrom excluded names index (count + 1))).map
        (Inquiry.request client head))
      ((Nearest.keepAll best (reachable excluded ahead (names.drop (pageSize * index)))).map
        (·.tag)) := by
  induction count generalizing index best with
  | zero =>
      apply leads_page hnames htags hmeasures
      intro best
      have hlast : names.length < pageSize * (index + 1) := by
        simp only [pageSize] at hcount ⊢
        omega
      rw [decide_eq_false (Nat.not_le.mpr hlast), List.drop_of_length_le (Nat.le_of_lt hlast)]
      exact Conversation.Leads.finish _
  | succ count ih =>
      apply leads_page hnames htags hmeasures
      intro best
      have hmore : pageSize * (index + 1) ≤ names.length := by
        simp only [pageSize] at hcount ⊢
        omega
      rw [decide_eq_true hmore]
      exact ih ((Nat.succ_add_eq_add_succ index count).trans hcount) best

/-- The search makes the requests of the survey, up to a tag at the head, and keeps of all tags that
can be reached the one that keeping them one by one leaves. -/
theorem settles_latestTag {entries names : List Json}
    (hnames : entries.map (Json.field? "name".text) = names.map some)
    (htags : service.ListsTags client head entries)
    (hmeasures : ∀ tag ∈ names, isExcluded excluded tag = false →
      service.Measures client head tag (ahead tag)) :
    service.Settles (client.latestTag head excluded)
      ((upTo (Inquiry.isAtHead ahead) (survey excluded names)).map (Inquiry.request client head))
      ((Nearest.keepAll none (reachable excluded ahead names)).map (·.tag)) :=
  (Conversation.settles_of_leads
    (leads_listing hnames htags hmeasures (Nat.zero_add _) none)).noting _

end Search

end ReleaseNotes.GitHub
