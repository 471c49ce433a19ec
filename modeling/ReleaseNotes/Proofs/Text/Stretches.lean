import ReleaseNotes.Proofs.Text.Replacement
import ReleaseNotes.Proofs.Text.Trimming

namespace ReleaseNotes.Text

/-!
A value that has no letter in common with a word. Wherever the value stands, no occurrence of the
word reaches into it or across it, so what is done to the word is done to either side for itself.
-/

structure Apart (word value : Text) : Prop where
  word_ne_nil : word ≠ []
  value_ne_nil : value ≠ []
  not_mem : ∀ c ∈ value, c ∉ word

theorem prefix_of_prefix_append {word a b : Text} {c : Letter} (hc : c ∉ word)
    (h : word <+: a ++ c :: b) : word <+: a := by
  have hopening : a ++ [c] <+: a ++ c :: b := ⟨b, by simp⟩
  cases List.prefix_or_prefix_of_prefix h hopening with
  | inl hwithin =>
      cases List.prefix_concat_iff.mp hwithin with
      | inl heq => exact absurd (heq ▸ List.mem_concat_self) hc
      | inr hbefore => exact hbefore
  | inr hacross => exact absurd (hacross.subset List.mem_concat_self) hc

namespace Apart

variable {word value : Text}

theorem prefix_iff (h : Apart word value) (a b : Text) :
    word <+: a ++ (value ++ b) ↔ word <+: a := by
  constructor
  · obtain ⟨c, value, rfl⟩ := List.exists_cons_of_ne_nil h.value_ne_nil
    exact prefix_of_prefix_append (h.not_mem c List.mem_cons_self)
  · exact fun hprefix => hprefix.trans (List.prefix_append a _)

theorem absent (h : Apart word value) (b : Text) : Absent word value b := by
  obtain ⟨w, word, rfl⟩ := List.exists_cons_of_ne_nil h.word_ne_nil
  apply absent_of_isAbsent
  apply isAbsent_of_not_mem
  exact fun hmem => h.not_mem w hmem List.mem_cons_self

theorem replaceAll_append (h : Apart word value) (put a b : Text) :
    replaceAll word put (a ++ (value ++ b)) =
      replaceAll word put a ++ (value ++ replaceAll word put b) := by
  induction hlength : a.length using Nat.strongRecOn generalizing a with
  | _ length ih =>
    by_cases hstart : word <+: a
    · obtain ⟨rest, rfl⟩ := hstart
      have hshort : rest.length < length := by
        have := List.length_pos_iff.mpr h.word_ne_nil
        rw [← hlength, List.length_append]
        omega
      rw [List.append_assoc, replaceAll_word h.word_ne_nil, replaceAll_word h.word_ne_nil,
        ih _ hshort rest rfl, List.append_assoc]
    · cases a with
      | nil => exact Text.replaceAll_append (h.absent b)
      | cons c a =>
          have hopening : ¬ word <+: c :: (a ++ (value ++ b)) := fun hprefix =>
            hstart ((h.prefix_iff (c :: a) b).mp hprefix)
          have hshort : a.length < length := by
            rw [← hlength, List.length_cons]
            omega
          rw [List.cons_append, replaceAll_cons hopening, replaceAll_cons hstart,
            ih _ hshort a rfl, List.cons_append]

end Apart

/-! Replacing the first occurrence only. -/

theorem replaceFirst_cons {word value : Text} {c : Letter} {text : Text}
    (h : ¬ word <+: c :: text) :
    replaceFirst word value (c :: text) = c :: replaceFirst word value text := by
  rw [replaceFirst, after?_eq_none h]

theorem replaceFirst_append {word value a b : Text} (h : Absent word a b) :
    replaceFirst word value (a ++ b) = a ++ replaceFirst word value b := by
  induction a with
  | nil => rfl
  | cons c a ih => rw [List.cons_append, replaceFirst_cons h.1, ih h.2, List.cons_append]

theorem replaceFirst_word {word : Text} (hword : word ≠ []) (value rest : Text) :
    replaceFirst word value (word ++ rest) = value ++ rest := by
  obtain ⟨w, word, rfl⟩ := List.exists_cons_of_ne_nil hword
  rw [List.cons_append, replaceFirst, ← List.cons_append, after?_append]

theorem Apart.absent_of_not_holds {word value a : Text} (h : Apart word value)
    (ha : holds word a = false) (b : Text) : Absent word a (value ++ b) := by
  induction a with
  | nil => trivial
  | cons c a ih =>
      rw [holds, Bool.or_eq_false_iff] at ha
      refine ⟨?_, ih ha.2⟩
      intro hopening
      have hprefix : word <+: c :: a := (h.prefix_iff (c :: a) b).mp hopening
      exact Bool.false_ne_true (ha.1.symm.trans (List.isPrefixOf_iff_prefix.mpr hprefix))

theorem Apart.replaceFirst_of_holds {word value a : Text} (h : Apart word value)
    (ha : holds word a = true) (put b : Text) :
    replaceFirst word put (a ++ (value ++ b)) = replaceFirst word put a ++ (value ++ b) := by
  induction a with
  | nil => exact absurd (List.isEmpty_iff.mp ha) h.word_ne_nil
  | cons c a ih =>
      by_cases hstart : word <+: c :: a
      · obtain ⟨rest, hrest⟩ := hstart
        rw [← hrest, List.append_assoc, replaceFirst_word h.word_ne_nil,
          replaceFirst_word h.word_ne_nil, List.append_assoc]
      · have hopening : ¬ word <+: c :: (a ++ (value ++ b)) := fun hprefix =>
          hstart ((h.prefix_iff (c :: a) b).mp hprefix)
        have hlater : holds word a = true := by
          rw [holds, Bool.or_eq_true, List.isPrefixOf_iff_prefix] at ha
          exact ha.resolve_left hstart
        rw [List.cons_append, replaceFirst_cons hopening, replaceFirst_cons hstart, ih hlater,
          List.cons_append]

theorem Apart.replaceFirst_of_not_holds {word value a : Text} (h : Apart word value)
    (ha : holds word a = false) (put b : Text) :
    replaceFirst word put (a ++ (value ++ b)) = a ++ (value ++ replaceFirst word put b) := by
  rw [replaceFirst_append (h.absent_of_not_holds ha b), replaceFirst_append (h.absent b)]

/-! Trimming stops at a value without blanks. -/

theorem dropWhile_append_of_kept {p : Letter → Bool} {value : Text} (hne : value ≠ [])
    (hvalue : ∀ c ∈ value, p c = false) (a b : Text) :
    (a ++ (value ++ b)).dropWhile p = a.dropWhile p ++ (value ++ b) := by
  obtain ⟨c, value, rfl⟩ := List.exists_cons_of_ne_nil hne
  have hkept : (c :: (value ++ b)).dropWhile p = c :: (value ++ b) :=
    List.dropWhile_cons_of_neg (Bool.eq_false_iff.mp (hvalue c List.mem_cons_self))
  rw [List.cons_append, List.dropWhile_append]
  split
  · rename_i hempty
    rw [hkept, List.isEmpty_iff.mp hempty, List.nil_append]
  · rfl

theorem dropEndWhile_append_of_kept {p : Letter → Bool} {value : Text} (hne : value ≠ [])
    (hvalue : ∀ c ∈ value, p c = false) (a b : Text) :
    dropEndWhile p (a ++ (value ++ b)) = a ++ (value ++ dropEndWhile p b) := by
  have hreverse : ∀ c ∈ value.reverse, p c = false := fun c hc =>
    hvalue c (List.mem_reverse.mp hc)
  have hkept := dropWhile_append_of_kept (mt List.reverse_eq_nil_iff.mp hne) hreverse b.reverse
    a.reverse
  rw [dropEndWhile, List.reverse_append, List.reverse_append, List.append_assoc, hkept, dropEndWhile,
    List.reverse_append, List.reverse_append, List.reverse_reverse, List.reverse_reverse,
    List.append_assoc]

/-!
A text in which one value stands in several places, known by the stretches around them. What is done
to a word that is apart from the value can be done to the stretches, before the value is put in.
-/

/-- A value that trimming does not touch. -/
structure Solid (value : Text) : Prop where
  ne_nil : value ≠ []
  not_blank : ∀ c ∈ value, isBlank c = false

namespace Cut

def stretches (cut : Cut α) : List Text :=
  cut.head :: cut.marks.map Prod.snd

/-- A stretch and a mark in front of a cut. -/
def lead (head : Text) (a : α) (cut : Cut α) : Cut α :=
  ⟨head, (a, cut.head) :: cut.marks⟩

/-- The same places with one value at all of them. -/
def fillWith (value : Text) (cut : Cut α) : Text :=
  cut.fill fun _ => value

theorem fillWith_nil (value head : Text) : fillWith value (⟨head, []⟩ : Cut α) = head :=
  List.append_nil head

theorem fillWith_lead (value head : Text) (a : α) (cut : Cut α) :
    (cut.lead head a).fillWith value = head ++ (value ++ cut.fillWith value) := by
  simp [fillWith, fill, lead]

/-- Every cut is a stretch alone, or a stretch and a mark in front of another cut. -/
theorem leadRec {motive : Cut α → Prop} (alone : ∀ head, motive ⟨head, []⟩)
    (lead : ∀ head a cut, motive cut → motive (cut.lead head a)) (cut : Cut α) : motive cut := by
  obtain ⟨head, marks⟩ := cut
  induction marks generalizing head with
  | nil => exact alone head
  | cons mark marks ih => exact lead head mark.1 ⟨mark.2, marks⟩ (ih mark.2)

theorem fillWith_eq_joined (value : Text) (cut : Cut α) :
    cut.fillWith value = joined value cut.stretches := by
  induction cut using leadRec with
  | alone head => simp [fillWith_nil, stretches, joined]
  | lead head a cut ih =>
      rw [fillWith_lead, ih, ← List.append_assoc]
      exact (List.intercalate_cons_cons ..).symm

theorem exists_append (cut other : Cut α) :
    ∃ both : Cut α, ∀ value, both.fillWith value = cut.fillWith value ++ other.fillWith value := by
  induction cut using leadRec with
  | alone head =>
      refine ⟨other.after head, ?_⟩
      intro value
      simp [fillWith, fill, after]
  | lead head a cut ih =>
      obtain ⟨both, hboth⟩ := ih
      refine ⟨both.lead head a, ?_⟩
      intro value
      simp only [fillWith_lead, hboth, List.append_assoc]

variable {word : Text}

theorem replaceAll_fillWith {value : Text} (h : Apart word value) (put : Text) (cut : Cut α) :
    replaceAll word put (cut.fillWith value) =
      (cut.mapStretches (replaceAll word put)).fillWith value := by
  induction cut using leadRec with
  | alone head => simp [fillWith, fill, mapStretches]
  | lead head a cut ih =>
      rw [fillWith_lead, h.replaceAll_append, ih]
      exact (fillWith_lead value _ a _).symm

theorem exists_replaceFirst (word put : Text) (cut : Cut α) :
    ∃ replaced : Cut α, ∀ value, Apart word value →
      replaceFirst word put (cut.fillWith value) = replaced.fillWith value := by
  induction cut using leadRec with
  | alone head => exact ⟨⟨replaceFirst word put head, []⟩, fun value _ => by simp [fillWith_nil]⟩
  | lead head a cut ih =>
      cases hhead : holds word head with
      | true =>
          refine ⟨cut.lead (replaceFirst word put head) a, ?_⟩
          intro value hvalue
          rw [fillWith_lead, fillWith_lead, hvalue.replaceFirst_of_holds hhead]
      | false =>
          obtain ⟨later, hlater⟩ := ih
          refine ⟨later.lead head a, ?_⟩
          intro value hvalue
          rw [fillWith_lead, fillWith_lead, hvalue.replaceFirst_of_not_holds hhead,
            hlater value hvalue]

theorem exists_stripEnd (cut : Cut α) :
    ∃ trimmed : Cut α, ∀ value, Solid value →
      stripEnd (cut.fillWith value) = trimmed.fillWith value := by
  induction cut using leadRec with
  | alone head => exact ⟨⟨stripEnd head, []⟩, fun value _ => by simp [fillWith_nil]⟩
  | lead head a cut ih =>
      obtain ⟨trimmed, htrimmed⟩ := ih
      refine ⟨trimmed.lead head a, ?_⟩
      intro value hvalue
      rw [fillWith_lead, fillWith_lead, ← htrimmed value hvalue]
      exact dropEndWhile_append_of_kept hvalue.ne_nil hvalue.not_blank head _

theorem exists_strip (cut : Cut α) :
    ∃ trimmed : Cut α, ∀ value, Solid value →
      strip (cut.fillWith value) = trimmed.fillWith value := by
  have hstart : ∃ opened : Cut α, ∀ value, Solid value →
      (cut.fillWith value).dropWhile isBlank = opened.fillWith value := by
    induction cut using leadRec with
    | alone head => exact ⟨⟨head.dropWhile isBlank, []⟩, fun value _ => by simp [fillWith_nil]⟩
    | lead head a cut _ =>
        refine ⟨cut.lead (head.dropWhile isBlank) a, ?_⟩
        intro value hvalue
        rw [fillWith_lead, fillWith_lead]
        exact dropWhile_append_of_kept hvalue.ne_nil hvalue.not_blank head _
  obtain ⟨opened, hopened⟩ := hstart
  obtain ⟨trimmed, htrimmed⟩ := exists_stripEnd opened
  refine ⟨trimmed, ?_⟩
  intro value hvalue
  rw [strip, hopened value hvalue]
  exact htrimmed value hvalue

end Cut

end ReleaseNotes.Text
