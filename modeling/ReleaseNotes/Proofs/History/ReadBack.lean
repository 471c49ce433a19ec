import ReleaseNotes.History.Git
import ReleaseNotes.Proofs.Text.Encodable
import ReleaseNotes.Proofs.Text.LineEnds
import ReleaseNotes.Proofs.Text.Pieces

namespace ReleaseNotes

namespace Git

/-! Reading the messages that Git prints undoes the way in which Git prints them, as long as no
message holds the separator of records itself. -/

/-- Each message with a record separator and a line end after it. -/
def framed (messages : List Text) : Text :=
  messages.flatMap (· ++ [recordSeparator, '\n'])

theorem framed_cons (message : Text) (messages : List Text) :
    framed (message :: messages) =
      message ++ recordSeparator :: Letter.char '\n' :: framed messages := by
  rw [framed, List.flatMap_cons, List.append_assoc]
  rfl

theorem foldNewlines_framed (messages : List Text) :
    Text.foldNewlines (framed messages) = framed (messages.map Text.foldNewlines) := by
  induction messages with
  | nil => rfl
  | cons message messages ih =>
      rw [framed_cons, List.map_cons, framed_cons, Text.foldNewlines_append (by decide),
        Text.foldNewlines_cons (by decide), Text.foldNewlines_cons (by decide), ih]

theorem separator_not_mem_foldNewlines {message : Text} (h : recordSeparator ∉ message) :
    recordSeparator ∉ Text.foldNewlines message := by
  intro hmem
  cases Text.mem_of_mem_foldNewlines hmem with
  | inl hmessage => exact h hmessage
  | inr hnewline => exact absurd hnewline (by decide)

/-! A separator stands between what is read before it and what is read after it. -/

theorem messages_append (before after : Text) :
    Git.messages (before ++ recordSeparator :: after) =
      Git.messages before ++ Git.messages after := by
  rw [Git.messages, List.splitOn_append_cons_self, List.map_append, List.filter_append]
  rfl

/-- The line end after a separator comes before the next message, and is trimmed with it. -/
theorem messages_newline (text : Text) :
    Git.messages (Letter.char '\n' :: text) = Git.messages text := by
  rw [Git.messages, Git.messages, List.splitOn_cons_eq_if_modifyHead, if_neg (by decide)]
  cases hpieces : text.splitOn recordSeparator with
  | nil => exact absurd hpieces (List.splitOn_ne_nil recordSeparator text)
  | cons piece pieces =>
      have hstrip : Text.stripNewlines (Letter.char '\n' :: piece) = Text.stripNewlines piece := by
        rw [Text.stripNewlines, Text.dropNewlines_newline]
        rfl
      rw [List.modifyHead_cons, List.map_cons, List.map_cons, hstrip]

theorem messages_of_no_separator {message : Text} (h : recordSeparator ∉ message) :
    Git.messages message =
      [Text.stripNewlines message].filter fun message => !Text.isAllBlank message := by
  rw [Git.messages, List.splitOn_eq_singleton h, List.map_singleton]

/-- What is read of the messages once Git has printed them. -/
def printed (messages : List Text) : List Text :=
  Git.messages (Text.foldNewlines (framed messages))

/-- Every message is read on its own, whatever stands before or after it. -/
theorem printed_eq_flatMap (messages : List Text) :
    printed messages = messages.flatMap fun message => Git.messages (Text.foldNewlines message) := by
  rw [printed, foldNewlines_framed]
  induction messages with
  | nil => rfl
  | cons message messages ih =>
      rw [List.map_cons, framed_cons, messages_append, messages_newline, ih, List.flatMap_cons]

theorem printed_eq {messages : List Text}
    (hmessages : ∀ message ∈ messages, recordSeparator ∉ message) :
    printed messages =
      (messages.map fun message => Text.stripNewlines (Text.foldNewlines message)).filter
        fun message => !Text.isAllBlank message := by
  rw [printed_eq_flatMap]
  induction messages with
  | nil => rfl
  | cons message messages ih =>
      obtain ⟨hmessage, hmessages⟩ := List.forall_mem_cons.mp hmessages
      rw [List.flatMap_cons, ih hmessages, List.map_cons, ← List.singleton_append,
        List.filter_append, messages_of_no_separator (separator_not_mem_foldNewlines hmessage)]

theorem commits_framed {messages : List Text} {out : Bytes}
    (hout : Utf8.decodeLenient out = framed messages) (range : Text) (oldestFirst : Bool)
    (err : Bytes) (answers : List Answer) :
    (commits range oldestFirst (.ran 0 out err :: answers)).result = .ok (printed messages) := by
  show Except.ok (Git.messages (Answer.readOutput out)) = _
  rw [Answer.readOutput, hout, printed]

end Git

namespace Text

/-! A letter that ends no line is neither folded nor trimmed away. -/

theorem mem_foldNewlines {c : Letter} (hnewline : c ≠ '\n') (hreturn : c ≠ '\r') {text : Text}
    (h : c ∈ text) : c ∈ foldNewlines text := by
  obtain ⟨before, after, rfl⟩ := List.append_of_mem h
  rw [foldNewlines_append hnewline, foldNewlines_cons hreturn, List.mem_append]
  exact .inr List.mem_cons_self

theorem mem_stripNewlines {c : Letter} (h : c ≠ '\n') {text : Text} :
    c ∈ stripNewlines text ↔ c ∈ text := by
  have hends : stripNewlines text = (dropNewlines (dropNewlines text).reverse).reverse := rfl
  rw [hends, List.mem_reverse, mem_dropNewlines h, List.mem_reverse, mem_dropNewlines h]

theorem exists_not_blank_trimmed {text : Text} (h : ∃ letter ∈ text, isBlank letter = false) :
    isAllBlank (stripNewlines (foldNewlines text)) = false := by
  obtain ⟨letter, hletter, hsaid⟩ := h
  have hnewline : letter ≠ '\n' := by
    rintro rfl
    exact absurd hsaid (by decide)
  have hreturn : letter ≠ '\r' := by
    rintro rfl
    exact absurd hsaid (by decide)
  refine List.all_eq_false.mpr ⟨letter, ?_, Bool.eq_false_iff.mp hsaid⟩
  exact (mem_stripNewlines hnewline).mpr (mem_foldNewlines hnewline hreturn hletter)

end Text

namespace Git

/-! Whether reading gives back the messages that Git printed. It does so one by one, and a message is
given back unless it holds the separator. -/

/-- As many messages as there were, in their order, each with its line ends folded and without the
line feeds around it. -/
def ReadsBack (messages : List Text) (outcome : Outcome (List Text)) : Prop :=
  outcome.result = .ok (messages.map fun message => Text.stripNewlines (Text.foldNewlines message))

theorem separator_not_mem_of_mem_messages {text message : Text} (h : message ∈ Git.messages text) :
    recordSeparator ∉ message := by
  obtain ⟨hmem, _⟩ := List.mem_filter.mp h
  obtain ⟨piece, hpiece, rfl⟩ := List.mem_map.mp hmem
  rw [Text.mem_stripNewlines (by decide)]
  exact Text.not_mem_of_mem_splitOn hpiece

/-- A message that says something is one record. -/
theorem messages_of_said {message : Text} (h : recordSeparator ∉ message)
    (hsaid : ∃ letter ∈ message, Text.isBlank letter = false) :
    Git.messages (Text.foldNewlines message) =
      [Text.stripNewlines (Text.foldNewlines message)] := by
  rw [messages_of_no_separator (separator_not_mem_foldNewlines h),
    List.filter_cons_of_pos (by simp [Text.exists_not_blank_trimmed hsaid]), List.filter_nil]

/-- Git's output is read message by message: what stands in one has no part in what is read of
another. All messages are given back exactly if none of them holds the separator. -/
theorem readsBack_iff {messages : List Text} {out : Bytes}
    (hsaid : ∀ message ∈ messages, ∃ letter ∈ message, Text.isBlank letter = false)
    (hout : Utf8.decodeLenient out = framed messages) (range : Text) (oldestFirst : Bool)
    (err : Bytes) (answers : List Answer) :
    let outcome := commits range oldestFirst (.ran 0 out err :: answers)
    outcome.result =
        .ok (messages.flatMap fun message => Git.messages (Text.foldNewlines message)) ∧
      (ReadsBack messages outcome ↔ ∀ message ∈ messages, recordSeparator ∉ message) := by
  intro outcome
  have hresult : outcome.result =
      .ok (messages.flatMap fun message => Git.messages (Text.foldNewlines message)) := by
    rw [← printed_eq_flatMap]
    exact commits_framed hout range oldestFirst err answers
  refine ⟨hresult, ?_⟩
  rw [ReadsBack, hresult, Except.ok.injEq]
  constructor
  · intro hback message hmessage hseparator
    have hread : Text.stripNewlines (Text.foldNewlines message) ∈
        messages.flatMap fun message => Git.messages (Text.foldNewlines message) := by
      rw [hback]
      exact List.mem_map_of_mem hmessage
    obtain ⟨other, _, hother⟩ := List.mem_flatMap.mp hread
    apply separator_not_mem_of_mem_messages hother
    rw [Text.mem_stripNewlines (by decide)]
    exact Text.mem_foldNewlines (by decide) (by decide) hseparator
  · intro hwhole
    rw [List.map_eq_flatMap]
    apply List.flatMap_congr
    intro message hmessage
    exact messages_of_said (hwhole message hmessage) (hsaid message hmessage)

theorem readsBack_iff_two_messages :
    let messages := ["\r\nfix: b\r\n\rmore\n".text, " feat: a".text]
    let out := Utf8.encodeChars "\r\nfix: b\r\n\rmore\n\x1e\n feat: a\x1e\n".toList
    (∀ message ∈ messages, ∃ letter ∈ message, Text.isBlank letter = false) ∧
      Utf8.decodeLenient out = framed messages ∧
      (commits "HEAD".text true [.ran 0 out []]).result =
        .ok ["fix: b\n\nmore".text, " feat: a".text] := by
  intro messages out
  have hsaid : ∀ message ∈ messages, ∃ letter ∈ message, Text.isBlank letter = false := by decide
  have hout : Utf8.decodeLenient out = framed messages :=
    (Utf8.decodeLenient_encodeChars _).trans rfl
  have hback := (readsBack_iff hsaid hout "HEAD".text true [] []).2.mpr (by decide)
  exact ⟨hsaid, hout, hback.trans (by decide)⟩

/-- A message that holds the separator is read as two. -/
theorem not_readsBack_separator :
    let messages := ["feat: a\x1efix: b".text]
    let out := Utf8.encodeChars "feat: a\x1efix: b\x1e\n".toList
    (∀ message ∈ messages, ∃ letter ∈ message, Text.isBlank letter = false) ∧
      Utf8.decodeLenient out = framed messages ∧
      (commits "HEAD".text true [.ran 0 out []]).result = .ok ["feat: a".text, "fix: b".text] ∧
      ¬ ReadsBack messages (commits "HEAD".text true [.ran 0 out []]) := by
  intro messages out
  have hout : Utf8.decodeLenient out = framed messages :=
    (Utf8.decodeLenient_encodeChars _).trans rfl
  have hread : (commits "HEAD".text true [.ran 0 out []]).result =
      .ok ["feat: a".text, "fix: b".text] :=
    (commits_framed hout "HEAD".text true [] []).trans (by decide)
  refine ⟨by decide, hout, hread, fun hback => ?_⟩
  rw [ReadsBack, hread, Except.ok.injEq] at hback
  exact absurd (congrArg List.length hback) (by decide)

end Git

end ReleaseNotes
