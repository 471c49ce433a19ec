import Mathlib.Data.List.Forall2
import Mathlib.Data.List.Induction
import ReleaseNotes.Commit
import ReleaseNotes.Proofs.Text.Pieces
import ReleaseNotes.Proofs.Text.Trimming

namespace ReleaseNotes.Categories

/-!
A mapping is read entry by entry: each one declares a type and a name, and the first that does not,
or that declares a type once more, is what is wrong with the mapping.
-/

/-- A type and a name, each without the blanks around it, on the two sides of the only colon. -/
def Declares (entry : Text) (pair : Text × Text) : Prop :=
  ∃ left right : Text, entry = left ++ Letter.char ':' :: right ∧
    Letter.char ':' ∉ left ∧ Letter.char ':' ∉ right ∧
    (pair.1 ≠ [] ∧ Text.IsTight pair.1 ∧ Text.IsPadded pair.1 left) ∧
    (pair.2 ≠ [] ∧ Text.IsTight pair.2 ∧ Text.IsPadded pair.2 right)

/-- Each entry declares a pair, and no two of them one type. -/
structure Declared (entries : List Text) (pairs : List (Text × Text)) : Prop where
  each : List.Forall₂ Declares entries pairs
  distinct : (pairs.map Prod.fst).Nodup

/-- What is wrong with an entry after those that declare the pairs. -/
inductive Fault (position : Nat) (pairs : List (Text × Text)) (entry : Text) : Error → Prop
  | malformed {shown : Text} :
      (∀ pair, ¬ Declares entry pair) → Text.IsTight shown → Text.IsPadded shown entry →
      Fault position pairs entry (.malformed position shown)
  | repeated {type first second : Text} :
      Declares entry (type, second) → (type, first) ∈ pairs →
      Fault position pairs entry (.repeated type first second)

/-- Up to the first entry at fault all of them are declared. -/
def FailsWith (entries : List Text) (error : Error) : Prop :=
  ∃ before entry after pairs, entries = before ++ entry :: after ∧ Declared before pairs ∧
    Fault (before.length + 1) pairs entry error

/-- The entries of a mapping are what its commas set apart. -/
structure HasEntries (mapping : Text) (entries : List Text) : Prop where
  some : entries ≠ []
  text_eq : mapping = Text.joined [Letter.char ','] entries
  plain : ∀ entry ∈ entries, Letter.char ',' ∉ entry

theorem hasEntries_iff {mapping : Text} {entries : List Text} :
    HasEntries mapping entries ↔ entries = mapping.splitOn (.char ',') := by
  rw [eq_comm, Text.splitOn_eq_iff]
  exact ⟨fun h => ⟨h.some, h.text_eq, h.plain⟩, fun h => ⟨h.1, h.2.1, h.2.2⟩⟩

/-! One entry. -/

theorem reads_iff_declares {entry : Text} {pair : Text × Text} :
    readEntry? entry = some pair ↔ Declares entry pair := by
  constructor
  · intro h
    unfold readEntry? at h
    split at h
    · rename_i left right hpieces
      obtain ⟨-, hentry, hplain⟩ := Text.splitOn_eq_iff.mp hpieces
      have hleft : Letter.char ':' ∉ left := hplain left (by simp)
      have hright : Letter.char ':' ∉ right := hplain right (by simp)
      split at h
      · cases h
      · rename_i hsome
        rw [not_or] at hsome
        cases h
        exact ⟨left, right, by simpa [Text.joined] using hentry, hleft, hright,
          ⟨hsome.1, Text.strip_eq_iff.mp rfl⟩, ⟨hsome.2, Text.strip_eq_iff.mp rfl⟩⟩
    · cases h
  · rintro ⟨left, right, rfl, hleft, hright, ⟨htype, hleftStrip⟩, ⟨hname, hrightStrip⟩⟩
    have hpieces : (left ++ Letter.char ':' :: right).splitOn (.char ':') = [left, right] := by
      rw [List.splitOn_append_cons_self_of_not_mem hleft, List.splitOn_eq_singleton hright]
    unfold readEntry?
    rw [hpieces]
    simp only [Text.strip_eq_iff.mpr hleftStrip, Text.strip_eq_iff.mpr hrightStrip, htype, hname,
      or_self, if_false]

/-- An entry is at fault or declares a type that was not there. -/
theorem fault_or_fresh (position : Nat) (pairs : List (Text × Text)) (entry : Text) :
    (∃ error, Fault position pairs entry error) ∨
      ∃ pair, Declares entry pair ∧ pair.1 ∉ pairs.map Prod.fst := by
  by_cases hdeclares : ∃ pair, Declares entry pair
  · obtain ⟨⟨type, second⟩, hpair⟩ := hdeclares
    by_cases hknown : type ∈ pairs.map Prod.fst
    · obtain ⟨⟨_, first⟩, hfirst, rfl⟩ := List.mem_map.mp hknown
      exact .inl ⟨_, .repeated hpair hfirst⟩
    · exact .inr ⟨_, hpair, hknown⟩
  · exact .inl ⟨_, .malformed (not_exists.mp hdeclares) (Text.isTight_strip entry)
      (Text.isPadded_strip entry)⟩

/-- Whatever the entries, either all are declared or there is a first one at fault. -/
theorem declared_or_fails (entries : List Text) :
    (∃ pairs, Declared entries pairs) ∨ ∃ error, FailsWith entries error := by
  induction entries using List.reverseRecOn with
  | nil => exact .inl ⟨[], .nil, List.nodup_nil⟩
  | append_singleton entries entry ih =>
      obtain ⟨pairs, hpairs⟩ | ⟨error, before, faulty, after, pairs, rfl, hbefore, hfault⟩ := ih
      · obtain ⟨error, hfault⟩ | ⟨pair, hpair, hfresh⟩ :=
          fault_or_fresh (entries.length + 1) pairs entry
        · exact .inr ⟨error, entries, entry, [], pairs, rfl, hpairs, hfault⟩
        · refine .inl ⟨pairs ++ [pair], List.rel_append hpairs.each (.cons hpair .nil), ?_⟩
          rw [List.map_append, List.map_singleton, List.nodup_append]
          refine ⟨hpairs.distinct, List.pairwise_singleton _ _, fun type htype other hother heq => ?_⟩
          rw [List.mem_singleton] at hother
          exact hfresh (hother ▸ heq ▸ htype)
      · exact .inr ⟨error, before, faulty, after ++ [entry], pairs, by simp, hbefore, hfault⟩

/-! One entry after the other. -/

theorem declare_of_fault {declared : Categories} {position : Nat} {entry : Text} {error : Error}
    (h : Fault position declared.entries entry error) (entries : List Text) :
    declare declared position (entry :: entries) = .error error := by
  rw [declare]
  cases h with
  | malformed hnone htight hpadded =>
      have hread : readEntry? entry = none :=
        Option.eq_none_iff_forall_ne_some.mpr fun pair hpair =>
          hnone pair (reads_iff_declares.mp hpair)
      rw [hread, Text.strip_eq_iff.mpr ⟨htight, hpadded⟩]
  | repeated hdeclares hfirst =>
      simp only [reads_iff_declares.mpr hdeclares, Table.get?_eq_some_iff.mpr hfirst]

theorem declare_of_fresh {declared : Categories} {entry : Text} {pair : Text × Text}
    (h : Declares entry pair) (hfresh : pair.1 ∉ declared.keys) (position : Nat)
    (entries : List Text) :
    declare declared position (entry :: entries) =
      declare (declared.put pair.1 pair.2) (position + 1) entries := by
  rw [declare]
  simp only [reads_iff_declares.mpr h, Table.get?_eq_none_iff.mpr hfresh]

/-- Entries that are declared leave their pairs behind those that were there before. -/
theorem declare_append {entries : List Text} {pairs : List (Text × Text)}
    (h : List.Forall₂ Declares entries pairs) (declared : Categories)
    (hdistinct : ((declared.entries ++ pairs).map Prod.fst).Nodup) (position : Nat)
    (others : List Text) :
    ∃ after : Categories, after.entries = declared.entries ++ pairs ∧
      declare declared position (entries ++ others) =
        declare after (position + entries.length) others := by
  induction h generalizing declared position with
  | nil => exact ⟨declared, (List.append_nil _).symm, rfl⟩
  | @cons entry pair entries pairs hentry _ ih =>
      have hfresh : pair.1 ∉ declared.keys := by
        rw [List.map_append, List.map_cons] at hdistinct
        exact fun hmem => (List.nodup_append.mp hdistinct).2.2 _ hmem _ List.mem_cons_self rfl
      have hput := Table.entries_put_of_fresh hfresh pair.2
      have hnext : (declared.put pair.1 pair.2).entries ++ pairs =
          declared.entries ++ pair :: pairs := by
        rw [hput, List.append_assoc, List.singleton_append]
      rw [← hnext] at hdistinct ⊢
      obtain ⟨after, hafter, hdeclare⟩ := ih _ hdistinct (position + 1)
      refine ⟨after, hafter, ?_⟩
      rw [List.cons_append, declare_of_fresh hentry hfresh, hdeclare, List.length_cons,
        Nat.add_assoc, Nat.add_comm 1]

theorem declare_of_declared {entries : List Text} {pairs : List (Text × Text)}
    (h : Declared entries pairs) :
    ∃ categories : Categories, categories.entries = pairs ∧
      declare Table.empty 1 entries = .ok categories := by
  obtain ⟨categories, hentries, hdeclare⟩ :=
    declare_append h.each Table.empty h.distinct 1 []
  rw [List.append_nil] at hdeclare
  exact ⟨categories, hentries, hdeclare⟩

theorem declare_of_fails {entries : List Text} {error : Error} (h : FailsWith entries error) :
    declare Table.empty 1 entries = .error error := by
  obtain ⟨before, entry, after, pairs, rfl, hbefore, hfault⟩ := h
  obtain ⟨categories, hentries, hdeclare⟩ :=
    declare_append hbefore.each Table.empty hbefore.distinct 1 (entry :: after)
  have hpairs : categories.entries = pairs := hentries
  rw [hdeclare, Nat.add_comm 1]
  exact declare_of_fault (hpairs ▸ hfault) after

theorem declare_eq_ok_iff {entries : List Text} {pairs : List (Text × Text)} :
    (∃ categories, declare Table.empty 1 entries = .ok categories ∧ categories.entries = pairs) ↔
      Declared entries pairs := by
  constructor
  · rintro ⟨categories, hok, rfl⟩
    obtain ⟨pairs, hpairs⟩ | ⟨error, herror⟩ := declared_or_fails entries
    · obtain ⟨found, hentries, hdeclare⟩ := declare_of_declared hpairs
      cases hok.symm.trans hdeclare
      exact hentries ▸ hpairs
    · cases hok.symm.trans (declare_of_fails herror)
  · intro h
    obtain ⟨categories, hentries, hdeclare⟩ := declare_of_declared h
    exact ⟨categories, hdeclare, hentries⟩

theorem declare_eq_error_iff {entries : List Text} {error : Error} :
    declare Table.empty 1 entries = .error error ↔ FailsWith entries error := by
  constructor
  · intro h
    obtain ⟨pairs, hpairs⟩ | ⟨found, hfound⟩ := declared_or_fails entries
    · obtain ⟨categories, -, hdeclare⟩ := declare_of_declared hpairs
      cases h.symm.trans hdeclare
    · cases h.symm.trans (declare_of_fails hfound)
      exact hfound
  · exact declare_of_fails

/-! A whole mapping. -/

theorem not_declares_of_blank {entry : Text} (h : ∀ c ∈ entry, Text.isBlank c = true)
    (pair : Text × Text) : ¬ Declares entry pair := by
  rintro ⟨left, right, rfl, -⟩
  have hcolon := h (Letter.char ':') (by simp)
  exact absurd hcolon (by decide)

theorem not_declared_of_blank {mapping : Text} (h : ∀ c ∈ mapping, Text.isBlank c = true)
    (pairs : List (Text × Text)) : ¬ Declared (mapping.splitOn (.char ',')) pairs := by
  have hcomma : Letter.char ',' ∉ mapping := fun hmem => absurd (h _ hmem) (by decide)
  rw [List.splitOn_eq_singleton hcomma]
  rintro ⟨hpairs, -⟩
  cases hpairs with
  | cons hmapping _ => exact not_declares_of_blank h _ hmapping

theorem parse_eq_ok_iff {mapping : Text} {pairs : List (Text × Text)} :
    (∃ categories, parse mapping = .ok categories ∧ categories.entries = pairs) ↔
      Declared (mapping.splitOn (.char ',')) pairs := by
  unfold parse
  by_cases hblank : Text.isAllBlank mapping = true
  · rw [if_pos hblank]
    refine iff_of_false ?_ (not_declared_of_blank (List.all_eq_true.mp hblank) pairs)
    rintro ⟨categories, h, -⟩
    cases h
  · rw [if_neg hblank]
    exact declare_eq_ok_iff

theorem parse_eq_error_iff {mapping : Text} {error : Error} :
    parse mapping = .error error ↔
      (∀ c ∈ mapping, Text.isBlank c = true) ∧ error = .blank ∨
        (∃ c ∈ mapping, Text.isBlank c = false) ∧
          FailsWith (mapping.splitOn (.char ',')) error := by
  unfold parse
  by_cases hblank : Text.isAllBlank mapping = true
  · have hall := List.all_eq_true.mp hblank
    have hno : ¬ ∃ c ∈ mapping, Text.isBlank c = false := by
      rintro ⟨c, hc, hnot⟩
      exact Bool.false_ne_true (hnot ▸ hall c hc)
    rw [if_pos hblank, Except.error.injEq, and_iff_right hall, or_iff_left fun h => hno h.1]
    exact eq_comm
  · have hsome : ∃ c ∈ mapping, Text.isBlank c = false := by
      simpa [Text.isAllBlank] using hblank
    have hno : ¬ ∀ c ∈ mapping, Text.isBlank c = true := by
      obtain ⟨c, hc, hnot⟩ := hsome
      exact fun hall => Bool.false_ne_true (hnot ▸ hall c hc)
    rw [if_neg hblank, declare_eq_error_iff, or_iff_right fun h => hno h.1, and_iff_right hsome]

/-! Writing a mapping. -/

/-- What can stand in an entry as its type or its name. -/
structure IsPart (part : Text) : Prop where
  some : part ≠ []
  tight : Text.IsTight part
  no_comma : Letter.char ',' ∉ part
  no_colon : Letter.char ':' ∉ part

/-- An entry that writes a pair, with blanks around its parts. -/
def Spells (entry : Text) (pair : Text × Text) : Prop :=
  ∃ left right : Text, entry = left ++ Letter.char ':' :: right ∧
    Text.IsPadded pair.1 left ∧ Text.IsPadded pair.2 right

def entryText (pair : Text × Text) : Text :=
  pair.1 ++ Letter.char ':' :: pair.2

def text (categories : Categories) : Text :=
  Text.joined [Letter.char ','] (categories.entries.map entryText)

theorem spells_entryText (pair : Text × Text) : Spells (entryText pair) pair :=
  ⟨pair.1, pair.2, rfl, Text.isPadded_self _, Text.isPadded_self _⟩

theorem Spells.declares {entry : Text} {pair : Text × Text} (h : Spells entry pair)
    (htype : IsPart pair.1) (hname : IsPart pair.2) : Declares entry pair := by
  obtain ⟨left, right, rfl, hleft, hright⟩ := h
  refine ⟨left, right, rfl, ?_, ?_, ⟨htype.some, htype.tight, hleft⟩,
    ⟨hname.some, hname.tight, hright⟩⟩
  · rw [Text.mem_of_isPadded hleft (by decide)]
    exact htype.no_colon
  · rw [Text.mem_of_isPadded hright (by decide)]
    exact hname.no_colon

theorem Spells.no_comma {entry : Text} {pair : Text × Text} (h : Spells entry pair)
    (htype : IsPart pair.1) (hname : IsPart pair.2) : Letter.char ',' ∉ entry := by
  obtain ⟨left, right, rfl, hleft, hright⟩ := h
  rw [List.mem_append, List.mem_cons, Text.mem_of_isPadded hleft (by decide),
    Text.mem_of_isPadded hright (by decide), not_or, not_or]
  exact ⟨htype.no_comma, by decide, hname.no_comma⟩

theorem Declares.isPart {entry : Text} {pair : Text × Text} (h : Declares entry pair)
    (hplain : Letter.char ',' ∉ entry) : IsPart pair.1 ∧ IsPart pair.2 := by
  obtain ⟨left, right, rfl, hleft, hright, ⟨htype, htypeTight, htypePadded⟩,
    ⟨hname, hnameTight, hnamePadded⟩⟩ := h
  rw [List.mem_append, List.mem_cons, not_or, not_or] at hplain
  rw [Text.mem_of_isPadded htypePadded (by decide)] at hplain hleft
  rw [Text.mem_of_isPadded hnamePadded (by decide)] at hplain hright
  exact ⟨⟨htype, htypeTight, hplain.1, hleft⟩, ⟨hname, hnameTight, hplain.2.2, hright⟩⟩

theorem declares_of_spells {entries : List Text} {pairs : List (Text × Text)}
    (h : List.Forall₂ Spells entries pairs)
    (hparts : ∀ pair ∈ pairs, IsPart pair.1 ∧ IsPart pair.2) :
    List.Forall₂ Declares entries pairs ∧ ∀ entry ∈ entries, Letter.char ',' ∉ entry := by
  induction h with
  | nil => exact ⟨.nil, by simp⟩
  | @cons entry pair entries pairs hentry _ ih =>
      obtain ⟨⟨htype, hname⟩, hparts⟩ := List.forall_mem_cons.mp hparts
      obtain ⟨heach, hplain⟩ := ih hparts
      exact ⟨.cons (hentry.declares htype hname) heach,
        List.forall_mem_cons.mpr ⟨hentry.no_comma htype hname, hplain⟩⟩

theorem parse_joined {entries : List Text} {pairs : List (Text × Text)} (hsome : pairs ≠ [])
    (hdistinct : (pairs.map Prod.fst).Nodup)
    (hparts : ∀ pair ∈ pairs, IsPart pair.1 ∧ IsPart pair.2)
    (hspelled : List.Forall₂ Spells entries pairs) :
    ∃ categories, parse (Text.joined [Letter.char ','] entries) = .ok categories ∧
      categories.entries = pairs := by
  obtain ⟨heach, hplain⟩ := declares_of_spells hspelled hparts
  have hentries : entries ≠ [] := by
    rintro rfl
    cases hspelled
    exact hsome rfl
  rw [parse_eq_ok_iff, Text.joined, List.splitOn_intercalate _ hplain hentries]
  exact ⟨heach, hdistinct⟩

theorem isPart_of_declared {entries : List Text} {pairs : List (Text × Text)}
    (h : List.Forall₂ Declares entries pairs) (hplain : ∀ entry ∈ entries, Letter.char ',' ∉ entry) :
    ∀ pair ∈ pairs, IsPart pair.1 ∧ IsPart pair.2 := by
  induction h with
  | nil => simp
  | cons hentry _ ih =>
      obtain ⟨hfirst, hplain⟩ := List.forall_mem_cons.mp hplain
      exact List.forall_mem_cons.mpr ⟨hentry.isPart hfirst, ih hplain⟩

theorem spells_text (pairs : List (Text × Text)) :
    List.Forall₂ Spells (pairs.map entryText) pairs := by
  induction pairs with
  | nil => exact .nil
  | cons pair pairs ih => exact .cons (spells_entryText pair) ih

/-- What was read from a mapping reads the same once it is written. -/
theorem parse_text {mapping : Text} {categories : Categories}
    (h : parse mapping = .ok categories) : parse categories.text = .ok categories := by
  have hdeclared := parse_eq_ok_iff.mp ⟨categories, h, rfl⟩
  have hsome : categories.entries ≠ [] := by
    intro hnil
    have hlength := hdeclared.each.length_eq
    rw [hnil, List.length_nil, List.length_eq_zero_iff] at hlength
    exact List.splitOn_ne_nil _ _ hlength
  obtain ⟨found, hfound, hentries⟩ := parse_joined hsome hdeclared.distinct
    (isPart_of_declared hdeclared.each fun _ => Text.not_mem_of_mem_splitOn)
    (spells_text categories.entries)
  rw [text, hfound, Table.eq_of_entries hentries]

/-- A mapping is accepted exactly if each of its entries declares a type and a name and no type comes
twice, and it is read as what they declare. Otherwise it is refused for being blank, or else for the
first entry at fault. Pairs that are written with any blanks around their parts are read back, and
so is what was read from a mapping. -/
theorem parse_iff_declared :
    (∀ mapping, ∃ entries, (∀ others, HasEntries mapping others ↔ others = entries) ∧
      (∀ pairs, (∃ categories, parse mapping = .ok categories ∧ categories.entries = pairs) ↔
        Declared entries pairs) ∧
      (∀ error, parse mapping = .error error ↔
        (∀ c ∈ mapping, Text.isBlank c = true) ∧ error = .blank ∨
          (∃ c ∈ mapping, Text.isBlank c = false) ∧ FailsWith entries error) ∧
      ∀ categories, parse mapping = .ok categories → parse categories.text = .ok categories) ∧
    ∀ (entries : List Text) (pairs : List (Text × Text)), pairs ≠ [] →
      (pairs.map Prod.fst).Nodup → (∀ pair ∈ pairs, IsPart pair.1 ∧ IsPart pair.2) →
      List.Forall₂ Spells entries pairs →
        ∃ categories, parse (Text.joined [Letter.char ','] entries) = .ok categories ∧
          categories.entries = pairs := by
  refine ⟨fun mapping => ⟨mapping.splitOn (.char ','), fun _ => hasEntries_iff, ?_, ?_, ?_⟩, ?_⟩
  · exact fun pairs => parse_eq_ok_iff
  · exact fun error => parse_eq_error_iff
  · exact fun categories => parse_text
  · exact fun entries pairs => parse_joined

/-- Blanks of several kinds around three of the four parts. -/
theorem parse_iff_declared_padded :
    let mapping := "\tfeat : New Features\u2003,fix:Bug Fixes\n".text
    let entries := ["\tfeat : New Features\u2003".text, "fix:Bug Fixes\n".text]
    let pairs := [("feat".text, "New Features".text), ("fix".text, "Bug Fixes".text)]
    pairs ≠ [] ∧ (pairs.map Prod.fst).Nodup ∧
      (∀ pair ∈ pairs, IsPart pair.1 ∧ IsPart pair.2) ∧ List.Forall₂ Spells entries pairs ∧
      Text.joined [Letter.char ','] entries = mapping ∧
      ∃ categories, parse mapping = .ok categories ∧ categories.entries = pairs ∧
        parse categories.text = .ok categories := by
  intro mapping entries pairs
  have hpart : ∀ part : Text, part ≠ [] → Text.strip part = part → Letter.char ',' ∉ part →
      Letter.char ':' ∉ part → IsPart part :=
    fun part hsome hstrip hcomma hcolon =>
      ⟨hsome, (Text.strip_eq_iff.mp hstrip).1, hcomma, hcolon⟩
  have hparts : ∀ pair ∈ pairs, IsPart pair.1 ∧ IsPart pair.2 :=
    List.forall_mem_cons.mpr
      ⟨⟨hpart _ (by decide) rfl (by decide) (by decide),
        hpart _ (by decide) rfl (by decide) (by decide)⟩,
      List.forall_mem_singleton.mpr
        ⟨hpart _ (by decide) rfl (by decide) (by decide),
          hpart _ (by decide) rfl (by decide) (by decide)⟩⟩
  have hfirst : Spells "\tfeat : New Features\u2003".text ("feat".text, "New Features".text) :=
    ⟨"\tfeat ".text, " New Features\u2003".text, rfl,
      ⟨"\t".text, " ".text, by decide, by decide, rfl⟩,
      ⟨" ".text, "\u2003".text, by decide, by decide, rfl⟩⟩
  have hsecond : Spells "fix:Bug Fixes\n".text ("fix".text, "Bug Fixes".text) :=
    ⟨"fix".text, "Bug Fixes\n".text, rfl, Text.isPadded_self _,
      ⟨[], "\n".text, by decide, by decide, rfl⟩⟩
  have hspelled : List.Forall₂ Spells entries pairs := .cons hfirst (.cons hsecond .nil)
  obtain ⟨hreads, hwritten⟩ := parse_iff_declared
  obtain ⟨categories, hparse, hentries⟩ :=
    hwritten entries pairs (by decide) (by decide) hparts hspelled
  obtain ⟨_, _, _, _, hagain⟩ := hreads mapping
  exact ⟨by decide, by decide, hparts, hspelled, rfl, categories, hparse, hentries,
    hagain categories hparse⟩

end ReleaseNotes.Categories
