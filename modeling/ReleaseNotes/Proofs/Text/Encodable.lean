import ReleaseNotes.Proofs.Text.Trimming
import ReleaseNotes.Text.Utf8

namespace ReleaseNotes

/-! A text can be written unless half a surrogate pair is in it, and nothing that is done to a text
on its way into a file or onto the terminal brings such a half in or takes one out. -/

theorem Utf8.obstacle?_eq_none_iff {text : Text} :
    Utf8.obstacle? text = none ↔ ∀ letter ∈ text, letter.isSurrogate = false := by
  rw [Utf8.obstacle?, Utf8.obstacleFrom?_eq_none_iff]
  constructor
  · rintro ⟨chars, rfl⟩ letter hletter
    obtain ⟨c, _, rfl⟩ := List.mem_map.mp hletter
    rfl
  · intro h
    induction text with
    | nil => exact ⟨[], rfl⟩
    | cons letter text ih =>
        obtain ⟨hletter, htext⟩ := List.forall_mem_cons.mp h
        obtain ⟨chars, rfl⟩ := ih htext
        cases letter with
        | char c => exact ⟨c :: chars, rfl⟩
        | surrogate half => cases hletter

theorem Utf8.obstacle?_ofChars (chars : List Char) : Utf8.obstacle? (Text.ofChars chars) = none := by
  rw [obstacle?_eq_none_iff]
  intro letter hletter
  obtain ⟨c, -, rfl⟩ := List.mem_map.mp hletter
  rfl

theorem Utf8.obstacle?_text (s : String) : Utf8.obstacle? s.text = none :=
  obstacle?_ofChars s.toList

theorem Utf8.encode_of_encodable {text : Text} (h : Utf8.obstacle? text = none) :
    Utf8.encode text = .ok (text.flatMap Utf8.encodeLetter) := by
  rw [Utf8.encode, Utf8.encodeWith, ← Utf8.obstacle?, h]

theorem Utf8.encode_of_obstacle {text : Text} {obstacle : Utf8.Obstacle}
    (h : Utf8.obstacle? text = some obstacle) : Utf8.encode text = .error obstacle := by
  rw [Utf8.encode, Utf8.encodeWith, ← Utf8.obstacle?, h]

theorem Utf8.obstacle?_append_eq_none_iff {a b : Text} :
    Utf8.obstacle? (a ++ b) = none ↔ Utf8.obstacle? a = none ∧ Utf8.obstacle? b = none := by
  rw [obstacle?_eq_none_iff, obstacle?_eq_none_iff, obstacle?_eq_none_iff]
  exact List.forall_mem_append

theorem Utf8.obstacle?_of_mem {a b : Text} (h : Utf8.obstacle? b = none) (hmem : ∀ c ∈ a, c ∈ b) :
    Utf8.obstacle? a = none :=
  obstacle?_eq_none_iff.mpr fun c hc => obstacle?_eq_none_iff.mp h c (hmem c hc)

theorem Utf8.obstacle?_of_decode {bytes : Bytes} {text : Text} (h : Utf8.decode bytes = .ok text) :
    Utf8.obstacle? text = none := by
  have hpieces : ∀ (pieces : List Utf8.Piece) (position : Nat) (text : Text),
      Utf8.readPieces position pieces = .ok text →
        ∀ letter ∈ text, letter.isSurrogate = false := by
    intro pieces
    induction pieces with
    | nil =>
        rintro position text ⟨⟩ letter hletter
        exact absurd hletter List.not_mem_nil
    | cons piece pieces ih =>
        intro position text htext letter hletter
        cases piece with
        | broken defect bytes => cases htext
        | letter c size =>
            rw [Utf8.readPieces] at htext
            cases hrest : Utf8.readPieces (position + size) pieces with
            | error failure =>
                rw [hrest] at htext
                cases htext
            | ok rest =>
                rw [hrest] at htext
                cases htext
                cases List.mem_cons.mp hletter with
                | inl heq => exact heq ▸ rfl
                | inr hmem => exact ih (position + size) rest hrest letter hmem
  exact obstacle?_eq_none_iff.mpr (hpieces _ 0 text h)

namespace Text

theorem isBlank_of_isSurrogate {letter : Letter} (h : letter.isSurrogate = true) :
    isBlank letter = false := by
  cases letter with
  | char c => cases h
  | surrogate half =>
      obtain ⟨hlow, hhigh⟩ := half.bounds
      have hcode : (Letter.surrogate half).code = half.code := rfl
      rw [← Bool.not_eq_true]
      simp only [isBlank, Bool.or_eq_true, Bool.and_eq_true, decide_eq_true_eq, beq_iff_eq]
      omega

theorem obstacle?_strip_eq_none_iff {text : Text} :
    Utf8.obstacle? (strip text) = none ↔ Utf8.obstacle? text = none := by
  constructor
  · rw [Utf8.obstacle?_eq_none_iff, Utf8.obstacle?_eq_none_iff]
    intro h letter hletter
    by_contra hsurrogate
    rw [Bool.not_eq_false] at hsurrogate
    have hmem := mem_strip_of_not_blank (isBlank_of_isSurrogate hsurrogate) hletter
    exact Bool.false_ne_true ((h letter hmem).symm.trans hsurrogate)
  · intro h
    exact Utf8.obstacle?_of_mem h fun _ => mem_of_mem_strip

theorem mem_of_mem_foldNewlines {letter : Letter} {text : Text} (h : letter ∈ foldNewlines text) :
    letter ∈ text ∨ letter = Letter.char '\n' := by
  fun_induction foldNewlines text with
  | case1 => exact Or.inl h
  | case2 text ih =>
      cases List.mem_cons.mp h with
      | inl heq => exact Or.inr heq
      | inr hmem => exact (ih hmem).imp_left fun hrest => by simp [hrest]
  | case3 text _ ih =>
      cases List.mem_cons.mp h with
      | inl heq => exact Or.inr heq
      | inr hmem => exact (ih hmem).imp_left fun hrest => by simp [hrest]
  | case4 c text _ _ ih =>
      cases List.mem_cons.mp h with
      | inl heq => exact Or.inl (heq ▸ List.mem_cons_self)
      | inr hmem => exact (ih hmem).imp_left fun hrest => List.mem_cons_of_mem c hrest

/-! A control sequence is made of ASCII characters only. -/

namespace ControlSequence

theorem removedFrom_drop (skip : Nat) (text : Text) :
    removedFrom skip text = removedFrom 0 (text.drop skip) := by
  induction text generalizing skip with
  | nil => cases skip <;> simp [removedFrom]
  | cons c text ih =>
      cases skip with
      | zero => rfl
      | succ skip => rw [removedFrom, ih, List.drop_succ_cons]

theorem isSurrogate_of_code {letter : Letter} (h : letter.code ≤ 0x7E) :
    letter.isSurrogate = false := by
  cases letter with
  | char c => rfl
  | surrogate half =>
      obtain ⟨hlow, _⟩ := half.bounds
      have hcode : half.code ≤ 0x7E := h
      omega

theorem isSurrogate_of_mem_takeWhile {low high : Nat} {letter : Letter} {text : Text}
    (hhigh : high ≤ 0x7E)
    (h : letter ∈ text.takeWhile fun c => decide (low ≤ c.code) && decide (c.code ≤ high)) :
    letter.isSurrogate = false := by
  have hrange := List.all_eq_true.mp List.all_takeWhile letter h
  simp only [Bool.and_eq_true, decide_eq_true_eq] at hrange
  exact isSurrogate_of_code (hrange.2.trans hhigh)

theorem isSurrogate_of_mem_opening {letter : Letter} {text : Text}
    (h : letter ∈ text.take (openingLength text)) : letter.isSurrogate = false := by
  unfold openingLength at h
  split at h
  · rename_i text
    simp only at h
    split at h
    · exact absurd h List.not_mem_nil
    · rename_i final rest hrest
      split at h
      · rename_i hfinal
        let parameters := text.takeWhile isParameter
        let intermediates := (text.dropWhile isParameter).takeWhile isIntermediate
        have htext : text = (parameters ++ (intermediates ++ [final])) ++ rest := by
          rw [List.append_assoc, List.append_assoc, List.singleton_append, ← hrest,
            List.takeWhile_append_dropWhile, List.takeWhile_append_dropWhile]
        have hlength : (parameters ++ (intermediates ++ [final])).length =
            parameters.length + intermediates.length + 1 := by
          simp only [List.length_append, List.length_singleton, Nat.add_assoc]
        have htake : text.take (parameters.length + intermediates.length + 1) =
            parameters ++ (intermediates ++ [final]) :=
          (congrArg (List.take _) htext).trans (List.take_left' hlength)
        rw [List.take_succ_cons, List.take_succ_cons, htake] at h
        simp only [List.mem_cons, List.mem_append, List.not_mem_nil, or_false] at h
        rcases h with rfl | rfl | hparameter | hintermediate | rfl
        · rfl
        · rfl
        · exact isSurrogate_of_mem_takeWhile (by decide) hparameter
        · exact isSurrogate_of_mem_takeWhile (by decide) hintermediate
        · simp only [isFinal, Bool.and_eq_true, decide_eq_true_eq] at hfinal
          exact isSurrogate_of_code hfinal.2
      · exact absurd h List.not_mem_nil
  · exact absurd h List.not_mem_nil

end ControlSequence

theorem mem_withoutControls_iff {letter : Letter} (hletter : letter.isSurrogate = true)
    (text : Text) : letter ∈ withoutControls text ↔ letter ∈ text := by
  rw [withoutControls]
  induction hlength : text.length using Nat.strongRecOn generalizing text with
  | _ length ih =>
    cases text with
    | nil => rfl
    | cons c text =>
        rw [ControlSequence.removedFrom]
        split
        · have hshort : text.length < length := by
            rw [← hlength, List.length_cons]
            omega
          rw [List.mem_cons, List.mem_cons, ih text.length hshort text rfl]
        · rename_i opened hopening
          have hshort : (text.drop opened).length < length := by
            rw [← hlength, List.length_drop, List.length_cons]
            omega
          have hopened : letter ∉ (c :: text).take (opened + 1) := by
            intro hmem
            rw [show opened + 1 = _ from hopening.symm] at hmem
            have hfalse := ControlSequence.isSurrogate_of_mem_opening hmem
            exact Bool.false_ne_true (hfalse.symm.trans hletter)
          rw [ControlSequence.removedFrom_drop, ih _ hshort _ rfl]
          conv_rhs => rw [← List.take_append_drop (opened + 1) (c :: text)]
          rw [List.mem_append, List.drop_succ_cons]
          exact (or_iff_right hopened).symm

theorem obstacle?_withoutControls_eq_none_iff {text : Text} :
    Utf8.obstacle? (withoutControls text) = none ↔ Utf8.obstacle? text = none := by
  rw [Utf8.obstacle?_eq_none_iff, Utf8.obstacle?_eq_none_iff]
  apply forall_congr'
  intro letter
  cases hletter : letter.isSurrogate with
  | false => simp
  | true => rw [mem_withoutControls_iff hletter]

end Text

end ReleaseNotes
