import Mathlib
import ReleaseNotes.Proofs.History.Pages
import ReleaseNotes.Proofs.History.ReadBack
import ReleaseNotes.Proofs.Release.Lines

namespace ReleaseNotes

/-! The notes of a release do not tell where its history was read. The messages that Git prints and
those that a service lists differ in their line ends and in the blank ones, and no commit is read
from either. -/

namespace Git

/-- A message that stands between two separators as it is, up to the line ends after it. -/
structure IsRecord (message : Text) : Prop where
  no_separator : recordSeparator ∉ message
  no_newline : message.head? ≠ some '\n'
  no_return : message.head? ≠ some '\r'

theorem IsRecord.read_eq {message : Text} (h : IsRecord message) (known : Text → Bool) :
    Commit.read known (Text.stripNewlines (Text.foldNewlines message)) =
      Commit.read known message := by
  have hopens := Text.dropNewlines_foldNewlines_eq_self h.no_newline h.no_return
  rw [Commit.read, Commit.read, Text.firstLine_stripNewlines hopens, Text.firstLine_foldNewlines]

end Git

namespace Release

theorem classified_not_blank (categories : Categories) (messages : List Text) :
    classified categories (messages.filter fun message => !Text.isAllBlank message) =
      classified categories messages := by
  rw [classified, List.filterMap_filter]
  apply List.filterMap_congr
  intro message _
  cases hblank : Text.isAllBlank message with
  | true => exact (Commit.read_of_isAllBlank hblank _).symm
  | false => rfl

/-- The commits that Git printed are those that are read from the messages themselves. -/
theorem classified_printed {messages : List Text} (h : ∀ message ∈ messages, Git.IsRecord message)
    (categories : Categories) :
    classified categories (Git.printed messages) = classified categories messages := by
  rw [Git.printed_eq fun message hmessage => (h message hmessage).no_separator,
    classified_not_blank, classified, List.filterMap_map]
  exact List.filterMap_congr fun message hmessage => (h message hmessage).read_eq _

/-- No release tells these messages from the others: its notes are the same text, or the same
error. -/
def SameNotes (messages others : List Json) : Prop :=
  ∀ version mapping template order date,
    generateNamed ⟨version, messages, mapping, template⟩ order date =
      generateNamed ⟨version, others, mapping, template⟩ order date

theorem sameNotes_strings {messages others : List Text}
    (h : ∀ categories, classified categories messages = classified categories others) :
    SameNotes (messages.map .string) (others.map .string) := by
  intro version mapping template order date
  have hdraft : ofDraft ⟨version, messages.map .string, mapping, template⟩ =
      ofDraft ⟨version, others.map .string, mapping, template⟩ := by
    rw [ofDraft, ofDraft]
    simp only [readMessages_strings, h]
  rw [generateNamed, generateNamed, hdraft]

open GitHub

/-- A history that Git prints makes the same notes as one that a service lists, be it the oldest
message first in a comparison or the newest first among all commits. -/
theorem sameNotes_of_same_history {messages : List Text}
    (hmessages : ∀ message ∈ messages, Git.IsRecord message) :
    (∀ range oldestFirst out err answers, Utf8.decodeLenient out = Git.framed messages →
      (Git.commits range oldestFirst (.ran 0 out err :: answers)).result =
        .ok (Git.printed messages)) ∧
    (∀ (client : Client) (service : Service) (base head : Text) (entries : List Json),
      entries.map message? = (messages.map Json.string).map some →
      service.ListsComparison client base head entries →
        ∃ found, service.Settles (client.compare base head)
            ((List.range (comparisonPages messages.length)).map fun index =>
              client.comparisonPage base head (index + 1)) found ∧
          SameNotes found ((Git.printed messages).map .string)) ∧
    (∀ (client : Client) (service : Service) (head : Text) (entries : List Json),
      entries.map message? = (messages.reverse.map Json.string).map some →
      service.ListsCommits client head entries →
        ∃ found, service.Settles (client.list head)
            ((List.range (listingPages messages.length)).map fun index =>
              client.commitsPage head (index + 1)) found ∧
          SameNotes found ((Git.printed messages).map .string)) := by
  have hnotes : SameNotes (messages.map .string) ((Git.printed messages).map .string) :=
    sameNotes_strings fun categories => (classified_printed hmessages categories).symm
  refine ⟨fun range oldestFirst out err answers hout => Git.commits_framed hout .., ?_, ?_⟩
  · intro client service base head entries hentries hlists
    have hcompare := settles_compare hentries hlists
    rw [length_eq_of_map_some hentries, List.length_map] at hcompare
    exact ⟨_, hcompare, hnotes⟩
  · intro client service head entries hentries hlists
    have hlist := settles_list hentries hlists
    rw [length_eq_of_map_some hentries, List.length_map, List.length_reverse, List.map_reverse,
      List.reverse_reverse] at hlist
    exact ⟨_, hlist, hnotes⟩

theorem sameNotes_of_same_history_with_blank :
    let messages := ["fix: b\r\n".text, " ".text]
    let client : Client := ⟨"o/r".text, .null, Client.defaultApiUrl, .null⟩
    let base := "v1".text
    let head := "main".text
    let out := Utf8.encodeChars "fix: b\r\n\x1e\n \x1e\n".toList
    let answer := fun body : String => Response.answered 200 (Utf8.encodeChars body.toList)
    let service : Service := fun request =>
      match request.params with
      | [_, (_, .int 1)] => answer ("\x7b\"total_commits\":2,\"commits\":[" ++
          "\x7b\"commit\":\x7b\"message\":\"fix: b\\r\\n\"\x7d\x7d," ++
          "\x7b\"commit\":\x7b\"message\":\" \"\x7d\x7d]\x7d")
      | [_, _] => answer "\x7b\"total_commits\":2,\"commits\":[]\x7d"
      | [_, _, (_, .int 1)] => answer ("[\x7b\"commit\":\x7b\"message\":\" \"\x7d\x7d," ++
          "\x7b\"commit\":\x7b\"message\":\"fix: b\\r\\n\"\x7d\x7d]")
      | _ => answer "[]"
    let entry := fun message =>
      Json.object [("commit".text, .object [("message".text, .string message)])]
    (∀ message ∈ messages, Git.IsRecord message) ∧
      Utf8.decodeLenient out = Git.framed messages ∧
      service.ListsComparison client base head (messages.map entry) ∧
      service.ListsCommits client head (messages.reverse.map entry) ∧
      (Git.commits head true [.ran 0 out []]).result = .ok ["fix: b".text] ∧
      ∃ fromComparison fromListing,
        service.Settles (client.compare base head) [client.comparisonPage base head 1]
          fromComparison ∧
        service.Settles (client.list head) [client.commitsPage head 1] fromListing ∧
        SameNotes fromComparison [.string "fix: b".text] ∧
        SameNotes fromListing [.string "fix: b".text] := by
  intro messages client base head out answer service entry
  have hmessages : ∀ message ∈ messages, Git.IsRecord message := by
    intro message hmessage
    simp only [messages, List.mem_cons, List.not_mem_nil, or_false] at hmessage
    rcases hmessage with rfl | rfl
    · exact ⟨by decide, by decide, by decide⟩
    · exact ⟨by decide, by decide, by decide⟩
  have hout : Utf8.decodeLenient out = Git.framed messages :=
    (Utf8.decodeLenient_encodeChars _).trans rfl
  have hcomparison : service.ListsComparison client base head (messages.map entry) := by
    intro index
    cases index with
    | zero =>
        exact ⟨.object [("total_commits".text, .int 2), ("commits".text, .list _)],
          Response.value_of_read (by cbv), rfl, rfl⟩
    | succ index =>
        exact ⟨.object [("total_commits".text, .int 2), ("commits".text, .list [])],
          Response.value_of_read (by cbv), rfl, rfl⟩
  have hcommits : service.ListsCommits client head (messages.reverse.map entry) := by
    intro index
    cases index with
    | zero => exact Response.value_of_read (by cbv)
    | succ index => exact Response.value_of_read (by cbv)
  have hprinted : Git.printed messages = ["fix: b".text] := by decide
  obtain ⟨hgit, hcompare, hlist⟩ := sameNotes_of_same_history hmessages
  obtain ⟨fromComparison, hcompare, hcompared⟩ :=
    hcompare client service base head (messages.map entry) rfl hcomparison
  obtain ⟨fromListing, hlist, hlisted⟩ :=
    hlist client service head (messages.reverse.map entry) rfl hcommits
  rw [show comparisonPages messages.length = 1 by decide] at hcompare
  rw [show listingPages messages.length = 1 by decide] at hlist
  rw [hprinted] at hcompared hlisted
  exact ⟨hmessages, hout, hcomparison, hcommits, hprinted ▸ hgit head true out [] [] hout,
    fromComparison, fromListing, hcompare, hlist, hcompared, hlisted⟩

end Release

end ReleaseNotes
