import Mathlib.Data.List.Induction
import ReleaseNotes.Json.Reader

namespace ReleaseNotes.Json

/-!
What an object says under a key that is written more than once: the last member of that name counts.
-/

/-- A member where the reader stands, up to the cursor behind its value. -/
def ReadsMember (room steps : Nat) (cursor : Cursor) (member : Text × Json) (next : Cursor) : Prop :=
  ∃ opened following afterKey, cursor.rest = Letter.char '\x22' :: opened ∧
    readText cursor.position 0 (cursor.position + 1) opened = .ok (member.1, afterKey) ∧
    afterKey.skipGaps.rest = Letter.char ':' :: following ∧
    readValue steps room (afterKey.skipGaps.advance 1).skipGaps = .ok (member.2, next)

/-- The members of an object in the order in which they are written, up to the cursor behind the
brace that closes it. -/
inductive ReadsMembers (room : Nat) : Nat → Cursor → List (Text × Json) → Cursor → Prop
  | last {steps : Nat} {cursor next : Cursor} {member : Text × Json} {following : Text} :
      ReadsMember room steps cursor member next →
      next.skipGaps.rest = Letter.char '\x7d' :: following →
      ReadsMembers room (steps + 1) cursor [member] (next.skipGaps.advance 1)
  | more {steps : Nat} {cursor next stop : Cursor} {member : Text × Json}
      {members : List (Text × Json)} {following : Text} :
      ReadsMember room steps cursor member next →
      next.skipGaps.rest = Letter.char ',' :: following →
      ReadsMembers room steps (next.skipGaps.advance 1).skipGaps members stop →
      ReadsMembers room (steps + 1) cursor (member :: members) stop

theorem ReadsMembers.rest_eq {room steps : Nat} {cursor stop : Cursor}
    {members : List (Text × Json)} (h : ReadsMembers room steps cursor members stop) :
    ∃ opened, cursor.rest = Letter.char '\x22' :: opened := by
  cases h with
  | last hmember _ =>
      obtain ⟨opened, _, _, hopened, _⟩ := hmember
      exact ⟨opened, hopened⟩
  | more hmember _ _ =>
      obtain ⟨opened, _, _, hopened, _⟩ := hmember
      exact ⟨opened, hopened⟩

theorem readFields_of_last {room steps : Nat} {cursor next : Cursor} {member : Text × Json}
    {following : Text} (h : ReadsMember room steps cursor member next)
    (hclosed : next.skipGaps.rest = Letter.char '\x7d' :: following)
    (fields : List (Text × Json)) :
    readFields (steps + 1) room fields cursor =
      .ok (ofFields (member :: fields).reverse, next.skipGaps.advance 1) := by
  obtain ⟨key, value⟩ := member
  obtain ⟨opened, _, afterKey, hopened, hkey, hcolon, hvalue⟩ := h
  rw [readFields]
  simp only [hopened, hkey, hcolon, hvalue, hclosed]

theorem readFields_of_more {room steps : Nat} {cursor next : Cursor} {member : Text × Json}
    {following : Text} (h : ReadsMember room steps cursor member next)
    (hcomma : next.skipGaps.rest = Letter.char ',' :: following) (fields : List (Text × Json)) :
    readFields (steps + 1) room fields cursor =
      readFields steps room (member :: fields) (next.skipGaps.advance 1).skipGaps := by
  obtain ⟨key, value⟩ := member
  obtain ⟨opened, _, afterKey, hopened, hkey, hcolon, hvalue⟩ := h
  rw [readFields]
  simp only [hopened, hkey, hcolon, hvalue, hcomma]

/-- A step of the reader that leads to a value has read a member, the last one or one of more. -/
theorem readFields_step {room steps : Nat} {cursor stop : Cursor} {value : Json}
    {fields : List (Text × Json)}
    (h : readFields (steps + 1) room fields cursor = .ok (value, stop)) :
    ∃ member next following, ReadsMember room steps cursor member next ∧
      (next.skipGaps.rest = Letter.char '\x7d' :: following ∧
          value = ofFields (member :: fields).reverse ∧ stop = next.skipGaps.advance 1 ∨
        next.skipGaps.rest = Letter.char ',' :: following ∧
          readFields steps room (member :: fields) (next.skipGaps.advance 1).skipGaps =
            .ok (value, stop)) := by
  rw [readFields] at h
  split at h
  · rename_i opened hopened
    split at h
    · cases h
    · rename_i key afterKey hkey
      simp only at h
      split at h
      · rename_i following hcolon
        split at h
        · cases h
        · rename_i item next hvalue
          have hmember : ReadsMember room steps cursor (key, item) next :=
            ⟨opened, following, afterKey, hopened, hkey, hcolon, hvalue⟩
          split at h
          · rename_i rest hclosed
            cases h
            exact ⟨_, _, rest, hmember, .inl ⟨hclosed, rfl, rfl⟩⟩
          · rename_i rest hcomma
            exact ⟨_, _, rest, hmember, .inr ⟨hcomma, h⟩⟩
          · cases h
      · cases h
  · cases h

theorem readFields_eq_ok_iff {room steps : Nat} {cursor stop : Cursor} {value : Json}
    {fields : List (Text × Json)} :
    readFields steps room fields cursor = .ok (value, stop) ↔
      ∃ members, ReadsMembers room steps cursor members stop ∧
        value = ofFields (fields.reverse ++ members) := by
  induction steps generalizing cursor fields with
  | zero =>
      constructor
      · intro h
        rw [readFields] at h
        cases h
      · rintro ⟨members, hmembers, -⟩
        cases hmembers
  | succ steps ih =>
      constructor
      · intro h
        obtain ⟨member, next, following, hmember, ⟨hclosed, hvalue, rfl⟩ | ⟨hcomma, h⟩⟩ :=
          readFields_step h
        · exact ⟨[member], .last hmember hclosed, by rw [hvalue, List.reverse_cons]⟩
        · obtain ⟨members, hmembers, hvalue⟩ := ih.mp h
          refine ⟨member :: members, .more hmember hcomma hmembers, ?_⟩
          rw [hvalue, List.reverse_cons, List.append_assoc, List.singleton_append]
      · rintro ⟨members, hmembers, hvalue⟩
        cases hmembers with
        | last hmember hclosed =>
            rw [readFields_of_last hmember hclosed, hvalue, List.reverse_cons]
        | more hmember hcomma hmembers =>
            rw [readFields_of_more hmember hcomma]
            refine ih.mpr ⟨_, hmembers, ?_⟩
            rw [hvalue, List.reverse_cons, List.append_assoc, List.singleton_append]

/-! A whole document. -/

/-- The document opens an object; the cursor stands behind the brace and the gaps after it. -/
def OpensObject (document : Text) (inner : Cursor) : Prop :=
  document.head? ≠ some (Letter.char '\uFEFF') ∧
    ∃ following, (Cursor.skipGaps ⟨0, document⟩).rest = Letter.char '\x7b' :: following ∧
      inner = ((Cursor.skipGaps ⟨0, document⟩).advance 1).skipGaps

/-- The document is one object, with these members in the order in which they are written. -/
inductive IsObjectOf (document : Text) : List (Text × Json) → Prop
  | empty {inner : Cursor} {following : Text} :
      OpensObject document inner → inner.rest = Letter.char '\x7d' :: following →
      (inner.advance 1).skipGaps.rest = [] → IsObjectOf document []
  | members {inner stop : Cursor} {members : List (Text × Json)} :
      OpensObject document inner →
      ReadsMembers (depthLimit - 1) (2 * document.length + 1) inner members stop →
      stop.skipGaps.rest = [] → IsObjectOf document members

theorem read_eq_ok_iff {document : Text} {value : Json} :
    read document = .ok value ↔
      document.head? ≠ some (Letter.char '\uFEFF') ∧
        ∃ next, readValue (2 * document.length + 2) depthLimit (Cursor.skipGaps ⟨0, document⟩) =
            .ok (value, next) ∧ next.skipGaps.rest = [] := by
  unfold read
  constructor
  · intro h
    simp only at h
    split at h
    · cases h
    · rename_i hmark
      split at h
      · cases h
      · rename_i found next hread
        split at h
        · rename_i hend
          cases h
          refine ⟨?_, next, hread, hend⟩
          intro hhead
          obtain ⟨rest, hrest⟩ := List.head?_eq_some_iff.mp hhead
          exact hmark rest hrest
        · cases h
  · rintro ⟨hmark, next, hread, hend⟩
    simp only
    split
    · exact absurd rfl hmark
    · simp only [hread, hend]

theorem readValue_of_empty {steps room : Nat} {cursor : Cursor} {following closed : Text}
    (hbrace : cursor.rest = Letter.char '\x7b' :: following)
    (hclosed : (cursor.advance 1).skipGaps.rest = Letter.char '\x7d' :: closed) :
    readValue (steps + 1) (room + 1) cursor =
      .ok (.object [], (cursor.advance 1).skipGaps.advance 1) := by
  rw [readValue]
  simp only [hbrace, hclosed]

theorem readValue_of_members {steps room : Nat} {cursor stop : Cursor} {following : Text}
    {members : List (Text × Json)} (hbrace : cursor.rest = Letter.char '\x7b' :: following)
    (hmembers : ReadsMembers room steps (cursor.advance 1).skipGaps members stop) :
    readValue (steps + 1) (room + 1) cursor = .ok (ofFields members, stop) := by
  obtain ⟨opened, hopened⟩ := hmembers.rest_eq
  rw [readValue]
  simp only [hbrace, hopened]
  exact readFields_eq_ok_iff.mpr ⟨members, hmembers, rfl⟩

theorem readItems_eq_list {steps room : Nat} {cursor next : Cursor} {items : List Json}
    {value : Json} (h : readItems steps room items cursor = .ok (value, next)) :
    ∃ found, value = .list found := by
  induction steps generalizing items cursor with
  | zero =>
      rw [readItems] at h
      cases h
  | succ steps ih =>
      rw [readItems] at h
      split at h
      · cases h
      · simp only at h
        split at h
        · cases h
          exact ⟨_, rfl⟩
        · exact ih h
        · cases h

theorem readMagnitude_ne_object {start cursor next : Cursor} {negative : Bool}
    {fields : List (Text × Json)} :
    readMagnitude start negative cursor ≠ .ok (.object fields, next) := by
  intro h
  unfold readMagnitude at h
  split at h
  · cases h
  · dsimp only at h
    repeat' split at h
    all_goals cases h

theorem readScalar_ne_object {cursor next : Cursor} {fields : List (Text × Json)} :
    readScalar cursor ≠ .ok (.object fields, next) := by
  intro h
  unfold readScalar at h
  split at h
  · rename_i name value hfound
    have hmem := List.mem_of_find?_eq_some hfound
    cases h
    simp [constants] at hmem
  · unfold readNumber at h
    split at h
    · exact readMagnitude_ne_object h
    · exact readMagnitude_ne_object h

/-- Only a brace opens an object. -/
theorem readValue_eq_object {steps room : Nat} {cursor next : Cursor}
    {fields : List (Text × Json)}
    (h : readValue (steps + 1) (room + 1) cursor = .ok (.object fields, next)) :
    ∃ following, cursor.rest = Letter.char '\x7b' :: following ∧
      ((∃ closed, (cursor.advance 1).skipGaps.rest = Letter.char '\x7d' :: closed ∧
          fields = [] ∧ next = (cursor.advance 1).skipGaps.advance 1) ∨
        ∃ members, ReadsMembers room steps (cursor.advance 1).skipGaps members next ∧
          Json.object fields = ofFields members) := by
  rw [readValue] at h
  split at h
  · generalize readText _ _ _ _ = found at h
    cases found with
    | error failure => cases h
    | ok found => cases h
  · rename_i following hbrace
    refine ⟨following, hbrace, ?_⟩
    simp only at h
    split at h
    · cases h
    · rename_i closed hroom hclosed
      cases h
      exact .inl ⟨closed, hclosed, rfl, rfl⟩
    · rename_i hroom _
      cases hroom
      obtain ⟨members, hmembers, hvalue⟩ := readFields_eq_ok_iff.mp h
      exact .inr ⟨members, hmembers, hvalue⟩
  · simp only at h
    split at h
    · cases h
    · cases h
    · obtain ⟨found, hfound⟩ := readItems_eq_list h
      cases hfound
  · exact absurd h readScalar_ne_object

theorem read_of_isObjectOf {document : Text} {members : List (Text × Json)}
    (h : IsObjectOf document members) : read document = .ok (ofFields members) := by
  rw [read_eq_ok_iff]
  cases h with
  | empty hopens hclosed hend =>
      obtain ⟨hmark, following, hbrace, rfl⟩ := hopens
      exact ⟨hmark, _, readValue_of_empty hbrace hclosed, hend⟩
  | members hopens hmembers hend =>
      obtain ⟨hmark, following, hbrace, rfl⟩ := hopens
      exact ⟨hmark, _, readValue_of_members hbrace hmembers, hend⟩

theorem exists_isObjectOf {document : Text} {fields : List (Text × Json)}
    (h : read document = .ok (.object fields)) : ∃ members, IsObjectOf document members := by
  obtain ⟨hmark, next, hread, hend⟩ := read_eq_ok_iff.mp h
  obtain ⟨following, hbrace, hempty | hmembers⟩ := readValue_eq_object hread
  · obtain ⟨closed, hclosed, -, rfl⟩ := hempty
    exact ⟨[], .empty ⟨hmark, following, hbrace, rfl⟩ hclosed hend⟩
  · obtain ⟨members, hmembers, -⟩ := hmembers
    exact ⟨members, .members ⟨hmark, following, hbrace, rfl⟩ hmembers hend⟩

/-! Repeated keys. -/

theorem field?_ofFields (members : List (Text × Json)) (key : Text) :
    (ofFields members).field? key = members.reverse.lookup key := by
  show (Table.ofPairs members).get? key = _
  induction members using List.reverseRecOn with
  | nil => rfl
  | append_singleton members member ih =>
      obtain ⟨name, value⟩ := member
      rw [Table.ofPairs, List.foldl_append, List.foldl_cons, List.foldl_nil, Table.get?_put,
        ← Table.ofPairs, ih, List.reverse_append]
      by_cases h : key = name
      · simp [h]
      · simp [h, List.lookup_cons, beq_false_of_ne h]

end ReleaseNotes.Json
