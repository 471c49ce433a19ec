import Mathlib
import ReleaseNotes.Proofs.History.Survey

namespace ReleaseNotes.GitHub

/-! The tag that a search ends with is the nearest of all tags of the listing, though the search may
end before it has seen them all. -/

/-- What a service says about the head and a tag. -/
structure Measurement where
  status : Option Json
  ahead : Option Nat

namespace Measurement

/-- How far the head is ahead of the tag, if the tag can be reached from it. -/
def distance (measurement : Measurement) : Option Nat :=
  match measurement.status.bind Json.text? with
  | none => none
  | some status =>
      if status ∈ ["ahead".text, "identical".text] then some (measurement.ahead.getD 0) else none

/-- An answer that says this much, whatever else it says. -/
def Reads (measurement : Measurement) (answer : Json) : Prop :=
  ∃ fields, answer = .object fields ∧ fields.lookup "status".text = measurement.status ∧
    fields.lookup "ahead_by".text = measurement.ahead.map fun count => .int count

theorem Reads.distance_eq {measurement : Measurement} {answer : Json}
    (h : measurement.Reads answer) :
    GitHub.distance answer = .ok (measurement.distance.map Int.ofNat) := by
  obtain ⟨fields, rfl, hstatus, hahead⟩ := h
  obtain ⟨status, ahead⟩ := measurement
  simp only at hstatus hahead
  simp only [GitHub.distance, Json.field?, hstatus, hahead, distance]
  cases status with
  | none => rfl
  | some value =>
      cases value with
      | string status =>
          simp only [Option.bind_some, Json.text?, List.mem_cons, List.not_mem_nil, or_false]
          split
          · cases ahead with
            | none => rfl
            | some count => rfl
          · rfl
      | null | bool | int | float | list | object => rfl

end Measurement

section Candidates

variable (excluded : List Text) (measured : Text → Measurement)

/-- The listed tags that may be chosen, in the order of the listing, each with its distance. -/
def candidates (tags : List Text) : List (Text × Nat) :=
  (tags.filter (· ∉ excluded)).filterMap fun tag =>
    (measured tag).distance.map fun count => (tag, count)

/-- How far the head is ahead of what an entry names. -/
def aheadOf (tag : Json) : Option Nat :=
  tag.text?.bind fun name => (measured name).distance

def nearestOf (candidate : Text × Nat) : Nearest :=
  ⟨.string candidate.1, Int.ofNat candidate.2⟩

theorem included_strings (tags : List Text) :
    included excluded (tags.map .string) = (tags.filter (· ∉ excluded)).map .string := by
  rw [included, List.filter_map]
  congr 1
  apply List.filter_congr
  intro tag _
  simp [isExcluded]

theorem reachable_strings (tags : List Text) :
    reachable excluded (aheadOf measured) (tags.map .string) =
      (candidates excluded measured tags).map nearestOf := by
  rw [reachable, included_strings, candidates, List.filterMap_map, List.map_filterMap]
  congr 1
  funext tag
  show ((measured tag).distance.map fun count => Nearest.mk (.string tag) (Int.ofNat count)) = _
  rw [Option.map_map]
  rfl

/-- Keeping one tag after the other leaves the earliest of the nearest. -/
theorem keepAll_eq_argmin (found : List (Text × Nat)) :
    Nearest.keepAll none (found.map nearestOf) = (found.argmin Prod.snd).map nearestOf := by
  induction found using List.reverseRecOn with
  | nil => rfl
  | append_singleton found candidate ih =>
      rw [List.map_append, List.map_singleton, Nearest.keepAll_concat, ih, List.argmin_concat]
      cases found.argmin Prod.snd with
      | none => rfl
      | some best =>
          show Nearest.keep (some (nearestOf best)) (.string candidate.1) (Int.ofNat candidate.2) =
            Option.map nearestOf (if candidate.2 < best.2 then some candidate else some best)
          have hnearer : Int.ofNat candidate.2 < (nearestOf best).distance ↔ candidate.2 < best.2 :=
            Int.ofNat_lt
          rw [Nearest.keep]
          by_cases h : candidate.2 < best.2
          · rw [if_pos (hnearer.mpr h), if_pos h]
            rfl
          · rw [if_neg fun hless => h (hnearer.mp hless), if_neg h]
            rfl

end Candidates

/-- The search ends with the earliest of the nearest tags. It measures the tags that are not
excluded in the order of the listing, each where it is listed, and makes no request after it has
measured one at the head. -/
theorem latestTag_eq_argmin {client : Client} {service : Service} {head : Text}
    {excluded tags : List Text} {entries : List Json} (measured : Text → Measurement)
    (hnames : entries.map (Json.field? "name".text) = tags.map fun tag => some (.string tag))
    (htags : service.ListsTags client head entries)
    (hmeasured : ∀ tag ∈ tags, tag ∉ excluded → ∃ answer,
      (service ((Inquiry.measure (.string tag)).request client head)).value = .ok answer ∧
        (measured tag).Reads answer) :
    ∃ inquiries nearest,
      service.Settles (client.latestTag head excluded)
        (inquiries.map (Inquiry.request client head)) (nearest.map .string) ∧
      nearest = ((candidates excluded measured tags).argmin Prod.snd).map Prod.fst ∧
      (nearest = none ↔ ∀ tag ∈ tags, tag ∉ excluded → (measured tag).distance = none) ∧
      inquiries <+: survey excluded (tags.map .string) ∧
      inquiries.filterMap Inquiry.tag? <+: (tags.filter (· ∉ excluded)).map .string ∧
      ∀ before tag after, inquiries = before ++ .measure (.string tag) :: after →
        (measured tag).distance = some 0 → after = [] := by
  have hnames : entries.map (Json.field? "name".text) =
      (tags.map Json.string).map some := by
    rw [hnames, List.map_map]
    rfl
  have hmeasures : ∀ tag ∈ tags.map Json.string, isExcluded excluded tag = false →
      service.Measures client head tag (aheadOf measured tag) := by
    intro name hname hexcluded
    obtain ⟨tag, htag, rfl⟩ := List.mem_map.mp hname
    obtain ⟨answer, hvalue, hreads⟩ := hmeasured tag htag (by simpa [isExcluded] using hexcluded)
    exact ⟨answer, hvalue, hreads.distance_eq⟩
  have hsettles := settles_latestTag hnames htags hmeasures
  have hprefix := upTo_prefix (Inquiry.isAtHead (aheadOf measured))
    (survey excluded (tags.map .string))
  rw [reachable_strings, keepAll_eq_argmin, Option.map_map] at hsettles
  refine ⟨_, ((candidates excluded measured tags).argmin Prod.snd).map Prod.fst, ?_, rfl, ?_,
    hprefix, ?_, ?_⟩
  · rw [Option.map_map]
    exact hsettles
  · rw [Option.map_eq_none_iff, List.argmin_eq_none, candidates, List.filterMap_eq_nil_iff]
    simp only [List.mem_filter, decide_eq_true_eq, Option.map_eq_none_iff, and_imp]
  · rw [← included_strings, ← tags_survey]
    exact hprefix.filterMap Inquiry.tag?
  · intro before tag after hinquiries hdistance
    refine eq_nil_of_upTo hinquiries ?_
    rw [Inquiry.isAtHead, Inquiry.tag?, Option.any_some, aheadOf, Json.text?, Option.bind_some,
      hdistance]
    rfl

theorem latestTag_eq_argmin_at_head :
    let client : Client := ⟨"o/r".text, .null, Client.defaultApiUrl, .null⟩
    let head := "main".text
    let answer := fun body : String => Response.answered 200 (Utf8.encodeChars body.toList)
    let service : Service := fun request =>
      match request.params with
      | [_, (_, .int 1)] =>
          answer ("[\x7b\"name\":\"v2\"\x7d,\x7b\"name\":\"v1.9\"\x7d," ++
            "\x7b\"name\":\"v1.10\"\x7d,\x7b\"name\":\"v1\"\x7d]")
      | [_, _] => answer "[]"
      | _ =>
          if request.url = client.url (Client.comparison "v1.9".text head) then
            answer "\x7b\"status\":\"ahead\",\"ahead_by\":12\x7d"
          else answer "\x7b\"status\":\"identical\"\x7d"
    let tags := ["v2".text, "v1.9".text, "v1.10".text, "v1".text]
    let entries := tags.map fun tag => Json.object [("name".text, .string tag)]
    let measured := fun tag => if tag = "v1.9".text
      then Measurement.mk (some (.string "ahead".text)) (some 12)
      else ⟨some (.string "identical".text), none⟩
    entries.map (Json.field? "name".text) = tags.map (fun tag => some (.string tag)) ∧
      service.ListsTags client head entries ∧
      (∀ tag ∈ tags, tag ∉ ["v2".text] → ∃ answer,
        (service ((Inquiry.measure (.string tag)).request client head)).value = .ok answer ∧
          (measured tag).Reads answer) ∧
      ∃ inquiries : List Inquiry, service.Settles (client.latestTag head ["v2".text])
        (inquiries.map (Inquiry.request client head)) (some (.string "v1.10".text)) := by
  intro client head answer service tags entries measured
  have hnames : entries.map (Json.field? "name".text) =
      tags.map fun tag => some (.string tag) := rfl
  have htags : service.ListsTags client head entries := by
    intro index
    cases index with
    | zero => exact Response.value_of_read (by cbv)
    | succ index => exact Response.value_of_read (by cbv)
  have hmeasured : ∀ tag ∈ tags, tag ∉ ["v2".text] → ∃ answer,
      (service ((Inquiry.measure (.string tag)).request client head)).value = .ok answer ∧
        (measured tag).Reads answer := by
    have hahead : (answer "\x7b\"status\":\"ahead\",\"ahead_by\":12\x7d").value =
        .ok (.object [("status".text, .string "ahead".text), ("ahead_by".text, .int 12)]) :=
      Response.value_of_read (by cbv)
    have hidentical : (answer "\x7b\"status\":\"identical\"\x7d").value =
        .ok (.object [("status".text, .string "identical".text)]) :=
      Response.value_of_read (by cbv)
    have hother : ∀ tag, client.url (Client.comparison tag head) ≠
        client.url (Client.comparison "v1.9".text head) → (service
          ((Inquiry.measure (.string tag)).request client head)).value =
            .ok (.object [("status".text, .string "identical".text)]) := by
      intro tag htag
      exact (congrArg Response.value (if_neg htag)).trans hidentical
    intro tag htag hexcluded
    simp only [tags, List.mem_cons, List.not_mem_nil, or_false] at htag hexcluded
    rcases htag with rfl | rfl | rfl | rfl
    · exact absurd rfl hexcluded
    · exact ⟨_, (congrArg Response.value (if_pos rfl)).trans hahead, _, rfl, rfl, rfl⟩
    · exact ⟨_, hother _ (by decide), _, rfl, rfl, rfl⟩
    · exact ⟨_, hother _ (by decide), _, rfl, rfl, rfl⟩
  obtain ⟨inquiries, nearest, hsettles, hnearest, _⟩ :=
    latestTag_eq_argmin measured hnames htags hmeasured
  have hnearest : nearest = some "v1.10".text := hnearest.trans (by decide)
  rw [hnearest] at hsettles
  exact ⟨hnames, htags, hmeasured, inquiries, hsettles⟩

end ReleaseNotes.GitHub
