import ReleaseNotes.Json.Reader

namespace ReleaseNotes.Json

/-!
The limits of the reader. It leaves an end of what it is given, so that what it fails for stands in
the text: for a limit a longer run of digits than an integer may have, or more brackets than may be
open.
-/

def isOpening (c : Letter) : Bool :=
  c == '[' || c == '\x7b'

/-- The text holds more than a limit allows, with `room` containers left to open. -/
inductive Exceeds (room : Nat) (text : Text) : Failure → Prop
  | digits {run : Text} :
      run <:+: text → (∀ c ∈ run, c.isDigit = true) → digitLimit < run.length →
      Exceeds room text (.tooManyDigits run.length)
  | depth (container : Container) :
      room < text.countP isOpening → Exceeds room text (.tooDeep container)

/-- A failure is one of the grammar, or by a limit that the text goes beyond. -/
inductive Blames (room : Nat) (text : Text) : Failure → Prop
  | grammar (reason : Reason) (position : Nat) : Blames room text (.malformed reason position)
  | limit {failure : Failure} : Exceeds room text failure → Blames room text failure

/-- Reading stays within the text: it stops at an end of it or fails for something in it. -/
inductive IsWithin (room : Nat) (text : Text) : Reading α → Prop
  | ok {value : α} {next : Cursor} : next.rest <:+ text → IsWithin room text (.ok (value, next))
  | error {failure : Failure} : Blames room text failure → IsWithin room text (.error failure)

section Within

variable {room : Nat} {text inner : Text} {failure : Failure} {reading : Reading α}

theorem Exceeds.of_suffix (h : Exceeds room inner failure) (hinner : inner <:+ text) :
    Exceeds room text failure := by
  cases h with
  | digits hrun hdigits hlong => exact .digits (hrun.trans hinner.isInfix) hdigits hlong
  | depth container hdeep =>
      exact .depth container (Nat.lt_of_lt_of_le hdeep hinner.sublist.countP_le)

/-- A bracket takes up one container. -/
theorem Exceeds.of_opening {c : Letter} (h : Exceeds room inner failure) (hc : isOpening c = true)
    (hinner : inner <:+ text) : Exceeds (room + 1) (c :: text) failure := by
  cases h with
  | digits hrun hdigits hlong =>
      have hsuffix : inner <:+ c :: text := hinner.trans (List.suffix_cons c text)
      exact .digits (hrun.trans hsuffix.isInfix) hdigits hlong
  | depth container hdeep =>
      apply Exceeds.depth
      rw [List.countP_cons_of_pos hc]
      exact Nat.succ_lt_succ (Nat.lt_of_lt_of_le hdeep hinner.sublist.countP_le)

theorem Blames.of_suffix (h : Blames room inner failure) (hinner : inner <:+ text) :
    Blames room text failure := by
  cases h with
  | grammar reason position => exact .grammar reason position
  | limit hexceeds => exact .limit (hexceeds.of_suffix hinner)

theorem Blames.of_opening {c : Letter} (h : Blames room inner failure) (hc : isOpening c = true)
    (hinner : inner <:+ text) : Blames (room + 1) (c :: text) failure := by
  cases h with
  | grammar reason position => exact .grammar reason position
  | limit hexceeds => exact .limit (hexceeds.of_opening hc hinner)

theorem IsWithin.suffix {value : α} {next : Cursor}
    (h : IsWithin room text (.ok (value, next))) : next.rest <:+ text := by
  cases h with
  | ok hnext => exact hnext

theorem IsWithin.blames (h : IsWithin room text (.error failure : Reading α)) :
    Blames room text failure := by
  cases h with
  | error hblames => exact hblames

theorem IsWithin.of_suffix (h : IsWithin room inner reading) (hinner : inner <:+ text) :
    IsWithin room text reading := by
  cases h with
  | ok hnext => exact .ok (hnext.trans hinner)
  | error hblames => exact .error (hblames.of_suffix hinner)

theorem IsWithin.of_opening {c : Letter} (h : IsWithin room inner reading)
    (hc : isOpening c = true) (hinner : inner <:+ text) :
    IsWithin (room + 1) (c :: text) reading := by
  cases h with
  | ok hnext => exact .ok ((hnext.trans hinner).trans (List.suffix_cons c text))
  | error hblames => exact .error (hblames.of_opening hc hinner)

theorem IsWithin.map {f : α → β} (h : IsWithin room text reading) :
    IsWithin room text (reading.map fun (value, next) => (f value, next)) := by
  cases h with
  | ok hnext => exact .ok hnext
  | error hblames => exact .error hblames

theorem isWithin_fail (cursor : Cursor) (reason : Reason) :
    IsWithin room text (cursor.fail reason : Reading α) :=
  .error (.grammar reason cursor.position)

end Within

theorem Cursor.advance_suffix (cursor : Cursor) (count : Nat) :
    (cursor.advance count).rest <:+ cursor.rest :=
  List.drop_suffix count cursor.rest

theorem Cursor.skipGaps_suffix (cursor : Cursor) : cursor.skipGaps.rest <:+ cursor.rest :=
  cursor.advance_suffix _

theorem Cursor.behind_suffix (cursor : Cursor) (count : Nat) :
    (cursor.advance count).skipGaps.rest <:+ cursor.rest :=
  (cursor.advance count).skipGaps_suffix.trans (cursor.advance_suffix count)

theorem Cursor.behind_suffix_tail {cursor : Cursor} {c : Letter} {text : Text}
    (h : cursor.rest = c :: text) : (cursor.advance 1).skipGaps.rest <:+ text := by
  have hbehind : (cursor.advance 1).rest = text := by
    rw [advance, h, List.drop_one, List.tail_cons]
  rw [← hbehind]
  exact (cursor.advance 1).skipGaps_suffix

/-! Texts and numbers. -/

theorem malformed_of_readEscape {opening position : Nat} {text : Text} {failure : Failure}
    (h : readEscape opening position text = .error failure) :
    ∃ reason place, failure = .malformed reason place := by
  unfold readEscape at h
  split at h
  · cases h
    exact ⟨_, _, rfl⟩
  · dsimp only at h
    repeat' split at h
    all_goals cases h
    all_goals exact ⟨_, _, rfl⟩
  · split at h
    · cases h
    · cases h
      exact ⟨_, _, rfl⟩

theorem isWithin_readText (room opening skip position : Nat) (text : Text) :
    IsWithin room text (readText opening skip position text) := by
  induction text generalizing skip position with
  | nil => exact .error (.grammar _ _)
  | cons c text ih =>
      have hlater (skip : Nat) :
          IsWithin room (c :: text) (readText opening skip (position + 1) text) :=
        (ih skip (position + 1)).of_suffix (List.suffix_cons c text)
      cases skip with
      | succ skip =>
          rw [readText]
          exact hlater skip
      | zero =>
          rw [readText]
          split
          · exact .ok (List.suffix_cons c text)
          · split
            · exact .error (.grammar _ _)
            · split
              · split
                · rename_i failure hescape
                  obtain ⟨reason, place, rfl⟩ := malformed_of_readEscape hescape
                  exact .error (.grammar reason place)
                · exact (hlater _).map
              · exact (hlater 0).map

theorem integerDigits_prefix (text : Text) : integerDigits text <+: text := by
  unfold integerDigits
  split
  · exact ⟨_, rfl⟩
  · exact List.takeWhile_prefix _

theorem isDigit_of_mem_integerDigits {text : Text} {c : Letter} (h : c ∈ integerDigits text) :
    c.isDigit = true := by
  unfold integerDigits at h
  split at h
  · rw [List.mem_singleton.mp h]
    decide
  · exact List.all_eq_true.mp List.all_takeWhile c h

theorem isWithin_readMagnitude (room : Nat) (start : Cursor) (negative : Bool) (cursor : Cursor) :
    IsWithin room cursor.rest (readMagnitude start negative cursor) := by
  unfold readMagnitude
  split
  · exact isWithin_fail start .value
  · have hwhole := cursor.advance_suffix (integerDigits cursor.rest).length
    have hprefix := integerDigits_prefix cursor.rest
    dsimp only
    split
    · split
      · split
        · rename_i hlong
          exact .error (.limit (.digits hprefix.isInfix (fun _ => isDigit_of_mem_integerDigits) hlong))
        · exact .ok hwhole
      · exact .ok ((Cursor.advance_suffix _ _).trans hwhole)
    · have hfraction := (Cursor.advance_suffix _
        ((fractionDigits (cursor.advance (integerDigits cursor.rest).length).rest).length + 1)).trans
          hwhole
      rename_i hsome
      rw [Bool.not_eq_true] at hsome
      rw [hsome, Bool.false_and]
      exact .ok ((Cursor.advance_suffix _ _).trans hfraction)

theorem isWithin_readScalar (room : Nat) (cursor : Cursor) :
    IsWithin room cursor.rest (readScalar cursor) := by
  unfold readScalar
  split
  · exact .ok (cursor.advance_suffix _)
  · unfold readNumber
    split
    · exact (isWithin_readMagnitude room cursor true _).of_suffix (cursor.advance_suffix 1)
    · exact isWithin_readMagnitude room cursor false cursor

/-! Values. -/

section Step

variable {steps : Nat}
  (hvalue : ∀ room cursor, IsWithin room cursor.rest (readValue steps room cursor))
  (hitems : ∀ room items cursor, IsWithin room cursor.rest (readItems steps room items cursor))
  (hfields : ∀ room fields cursor, IsWithin room cursor.rest (readFields steps room fields cursor))

include hitems hfields in
theorem isWithin_readValue_succ (room : Nat) (cursor : Cursor) :
    IsWithin room cursor.rest (readValue (steps + 1) room cursor) := by
  rw [readValue]
  split
  · rename_i text htext
    rw [htext]
    exact ((isWithin_readText room _ _ _ text).of_suffix (List.suffix_cons _ text)).map
  · rename_i text htext
    have hinner := Cursor.behind_suffix_tail htext
    rw [htext]
    dsimp only
    split
    · exact .error (.limit (.depth _ (by simp [isOpening])))
    · exact .ok (((Cursor.advance_suffix _ 1).trans hinner).trans (List.suffix_cons _ text))
    · exact (hfields _ _ _).of_opening rfl hinner
  · rename_i text htext
    have hinner := Cursor.behind_suffix_tail htext
    rw [htext]
    dsimp only
    split
    · exact .error (.limit (.depth _ (by simp [isOpening])))
    · exact .ok (((Cursor.advance_suffix _ 1).trans hinner).trans (List.suffix_cons _ text))
    · exact (hitems _ _ _).of_opening rfl hinner
  · exact isWithin_readScalar room cursor

include hvalue hitems in
theorem isWithin_readItems_succ (room : Nat) (items : List Json) (cursor : Cursor) :
    IsWithin room cursor.rest (readItems (steps + 1) room items cursor) := by
  have hitem := hvalue room cursor
  rw [readItems]
  split
  · rename_i failure hfailure
    rw [hfailure] at hitem
    exact .error hitem.blames
  · rename_i item next hread
    rw [hread] at hitem
    have hnext := next.skipGaps_suffix.trans hitem.suffix
    dsimp only
    split
    · exact .ok ((Cursor.advance_suffix _ 1).trans hnext)
    · exact (hitems _ _ _).of_suffix ((Cursor.behind_suffix _ 1).trans hnext)
    · exact isWithin_fail _ _

include hvalue hfields in
theorem isWithin_readFields_succ (room : Nat) (fields : List (Text × Json)) (cursor : Cursor) :
    IsWithin room cursor.rest (readFields (steps + 1) room fields cursor) := by
  rw [readFields]
  split
  · rename_i text htext
    have hkey := (isWithin_readText room cursor.position 0 (cursor.position + 1) text).of_suffix
      (List.suffix_cons (Letter.char '\x22') text)
    rw [← htext] at hkey
    split
    · rename_i failure hfailure
      rw [hfailure] at hkey
      exact .error hkey.blames
    · rename_i key afterKey hread
      rw [hread] at hkey
      have hcolon := (Cursor.behind_suffix _ 1).trans
        (afterKey.skipGaps_suffix.trans hkey.suffix)
      have hitem := (hvalue room (afterKey.skipGaps.advance 1).skipGaps).of_suffix hcolon
      dsimp only
      split
      · split
        · rename_i failure hfailure
          rw [hfailure] at hitem
          exact .error hitem.blames
        · rename_i value next hread
          rw [hread] at hitem
          have hnext := next.skipGaps_suffix.trans hitem.suffix
          split
          · exact .ok ((Cursor.advance_suffix _ 1).trans hnext)
          · exact (hfields _ _ _).of_suffix ((Cursor.behind_suffix _ 1).trans hnext)
          · exact isWithin_fail _ _
      · exact isWithin_fail _ _
  · exact isWithin_fail _ _

end Step

theorem isWithin_steps (steps : Nat) :
    (∀ room cursor, IsWithin room cursor.rest (readValue steps room cursor)) ∧
      (∀ room items cursor, IsWithin room cursor.rest (readItems steps room items cursor)) ∧
      ∀ room fields cursor, IsWithin room cursor.rest (readFields steps room fields cursor) := by
  induction steps with
  | zero =>
      refine ⟨fun room cursor => ?_, fun room items cursor => ?_, fun room fields cursor => ?_⟩
      · rw [readValue]
        exact isWithin_fail cursor .value
      · rw [readItems]
        exact isWithin_fail cursor .value
      · rw [readFields]
        exact isWithin_fail cursor .value
  | succ steps ih =>
      obtain ⟨hvalue, hitems, hfields⟩ := ih
      exact ⟨isWithin_readValue_succ hitems hfields, isWithin_readItems_succ hvalue hitems,
        isWithin_readFields_succ hvalue hfields⟩

/-- The reader gives up on a document only for what stands in it. -/
theorem blames_of_read {document : Text} {failure : Failure}
    (h : read document = .error failure) : Blames depthLimit document failure := by
  have hwithin := (isWithin_steps (2 * document.length + 2)).1 depthLimit
    (Cursor.skipGaps ⟨0, document⟩)
  unfold read at h
  dsimp only at h
  split at h
  · cases h
    exact .grammar _ _
  · split at h
    · rename_i found hfound
      cases h
      rw [hfound] at hwithin
      exact hwithin.blames.of_suffix (Cursor.skipGaps_suffix ⟨0, document⟩)
    · split at h
      · cases h
      · cases h
        exact .grammar _ _

end ReleaseNotes.Json
