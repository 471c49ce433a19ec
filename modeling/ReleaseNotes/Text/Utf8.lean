import ReleaseNotes.Text.Shown

namespace ReleaseNotes

abbrev Bytes := List UInt8

namespace Utf8

/-!
Bytes fall into pieces: a well-formed character, or the longest start of one that goes no further.
The strict reading stops at the first broken piece, the lenient one puts U+FFFD in its place.
-/

inductive Defect where
  | invalidStart
  | invalidContinuation
  | unexpectedEnd
deriving DecidableEq

def Defect.reason : Defect → Text
  | .invalidStart => "invalid start byte".text
  | .invalidContinuation => "invalid continuation byte".text
  | .unexpectedEnd => "unexpected end of data".text

inductive Piece where
  | letter (c : Char) (size : Nat)
  | broken (defect : Defect) (bytes : Bytes)

namespace Piece

def size : Piece → Nat
  | .letter _ size => size
  | .broken _ bytes => bytes.length

def orReplacement : Piece → Letter
  | .letter c _ => .char c
  | .broken _ _ => .char '\uFFFD'

end Piece

def isTail (b : UInt8) : Bool :=
  0x80 ≤ b.toNat && b.toNat ≤ 0xBF

/-- The second byte of a longer character: the first byte narrows it, so that no character has two
spellings, none is a surrogate and none lies past U+10FFFF. -/
def isSecond (a b : UInt8) : Bool :=
  isTail b && !(a.toNat == 0xE0 && b.toNat < 0xA0) && !(a.toNat == 0xED && 0xA0 ≤ b.toNat) &&
    !(a.toNat == 0xF0 && b.toNat < 0x90) && !(a.toNat == 0xF4 && 0x90 ≤ b.toNat)

def tailBits (b : UInt8) : Nat :=
  b.toNat - 0x80

def letterOf (code size : Nat) : Piece :=
  .letter (Char.ofNat code) size

/-- The piece that the bytes after a first byte complete. -/
def opening (a : UInt8) (following : Bytes) : Piece :=
  if a.toNat < 0x80 then letterOf a.toNat 1
  else if a.toNat < 0xC2 ∨ 0xF4 < a.toNat then .broken .invalidStart [a]
  else match following with
    | [] => .broken .unexpectedEnd [a]
    | b :: following =>
        if !isSecond a b then .broken .invalidContinuation [a]
        else if a.toNat < 0xE0 then letterOf ((a.toNat - 0xC0) * 64 + tailBits b) 2
        else match following with
          | [] => .broken .unexpectedEnd [a, b]
          | c :: following =>
              if !isTail c then .broken .invalidContinuation [a, b]
              else if a.toNat < 0xF0 then
                letterOf ((a.toNat - 0xE0) * 4096 + tailBits b * 64 + tailBits c) 3
              else match following with
                | [] => .broken .unexpectedEnd [a, b, c]
                | d :: _ =>
                    if !isTail d then .broken .invalidContinuation [a, b, c]
                    else
                      letterOf ((a.toNat - 0xF0) * 262144 + tailBits b * 4096 +
                        tailBits c * 64 + tailBits d) 4

/-- The number counts the bytes that still belong to the piece just found. -/
def piecesFrom : Nat → Bytes → List Piece
  | _, [] => []
  | skip + 1, _ :: bytes => piecesFrom skip bytes
  | 0, a :: bytes =>
      let piece := opening a bytes
      piece :: piecesFrom (piece.size - 1) bytes

def pieces (bytes : Bytes) : List Piece :=
  piecesFrom 0 bytes

structure Failure where
  position : Nat
  bytes : Bytes
  defect : Defect

def Failure.message (failure : Failure) : Text :=
  let last := failure.position + failure.bytes.length - 1
  "'utf-8' codec can't decode ".text ++
    (match failure.bytes with
      | [b] =>
          "byte 0x".text ++ hexPair b ++ " in position ".text ++
            Text.ofNat failure.position
      | _ =>
          "bytes in position ".text ++ Text.ofNat failure.position ++ "-".text ++
            Text.ofNat last) ++
    ": ".text ++ failure.defect.reason
where
  hexPair (b : UInt8) : Text :=
    .ofChars (Nat.toDigits 16 (b.toNat / 16) ++ Nat.toDigits 16 (b.toNat % 16))

def readPieces (position : Nat) : List Piece → Except Failure Text
  | [] => .ok []
  | .letter c size :: rest => (readPieces (position + size) rest).map (.char c :: ·)
  | .broken defect bytes :: _ => .error ⟨position, bytes, defect⟩

def decode (bytes : Bytes) : Except Failure Text :=
  readPieces 0 (pieces bytes)

def decodeLenient (bytes : Bytes) : Text :=
  (pieces bytes).map Piece.orReplacement

/-!
Writing in UTF-8. Every character has a form, half a surrogate pair has none. Only in the names of
files do some halves stand for bytes: those that are no UTF-8 have to be spelled somehow.
-/

def byte (n : Nat) : UInt8 := UInt8.ofNat n

def encodeChar (c : Char) : Bytes :=
  let n := c.toNat
  if n < 0x80 then [byte n]
  else if n < 0x800 then [byte (0xC0 + n / 64), byte (0x80 + n % 64)]
  else if n < 0x10000 then
    [byte (0xE0 + n / 4096), byte (0x80 + n / 64 % 64), byte (0x80 + n % 64)]
  else
    [byte (0xF0 + n / 262144), byte (0x80 + n / 4096 % 64), byte (0x80 + n / 64 % 64),
      byte (0x80 + n % 64)]

def encodeChars (chars : List Char) : Bytes :=
  chars.flatMap encodeChar

/-- The halves from `first` on, `count` of them in a row, that kept a text from being written. -/
structure Obstacle where
  position : Nat
  first : Surrogate
  count : Nat
deriving DecidableEq

def Obstacle.message (obstacle : Obstacle) : Text :=
  "'utf-8' codec can't encode character".text ++
    (if obstacle.count = 1 then
      " '".text ++ Text.escapeCode obstacle.first.code ++ "' in position ".text ++
        Text.ofNat obstacle.position
    else
      "s in position ".text ++ Text.ofNat obstacle.position ++ "-".text ++
        Text.ofNat (obstacle.position + obstacle.count - 1)) ++
    ": surrogates not allowed".text

def obstacleFrom? (isByte : Surrogate → Bool) (position : Nat) : Text → Option Obstacle
  | [] => none
  | .char _ :: text => obstacleFrom? isByte (position + 1) text
  | .surrogate half :: text =>
      if isByte half then obstacleFrom? isByte (position + 1) text
      else some ⟨position, half, (text.takeWhile Letter.isSurrogate).length + 1⟩

def encodeLetter : Letter → Bytes
  | .char c => encodeChar c
  | .surrogate half => [byte (half.code % 256)]

def size (text : Text) : Nat :=
  (text.flatMap encodeLetter).length

def encodeWith (isByte : Surrogate → Bool) (text : Text) : Except Obstacle Bytes :=
  match obstacleFrom? isByte 0 text with
  | some obstacle => .error obstacle
  | none => .ok (text.flatMap encodeLetter)

def obstacle? (text : Text) : Option Obstacle :=
  obstacleFrom? (fun _ => false) 0 text

def encode (text : Text) : Except Obstacle Bytes :=
  encodeWith (fun _ => false) text

/-- The half that stands for a byte past the ASCII range in the name of a file. -/
def isNameByte (half : Surrogate) : Bool :=
  decide (0xDC80 ≤ half.code) && decide (half.code ≤ 0xDCFF)

def encodeName (name : Text) : Except Obstacle Bytes :=
  encodeWith isNameByte name

def isNameLetter : Letter → Bool
  | .char c => c ≠ '\x00'
  | .surrogate half => isNameByte half

/-- What can be handed over as a name: half a pair stands for a byte, and no byte is zero. -/
def isName (name : Text) : Bool :=
  name.all isNameLetter

def nameBytes (piece : Piece) : Text :=
  match piece with
  | .letter c _ => [.char c]
  | .broken _ bytes => bytes.map fun b => Letter.ofCode (0xDC00 + b.toNat)

/-- One name can be spelled in more than one way; this is the way that uses the fewest halves. -/
def listedName (name : Text) : Text :=
  if name.any Letter.isSurrogate then (pieces (name.flatMap encodeLetter)).flatMap nameBytes
  else name

/-- A name for the eye: whatever is no UTF-8 in it becomes U+FFFD. -/
def shownName (name : Text) : Text :=
  decodeLenient (name.flatMap encodeLetter)

/-! Both readings give back a text that was written in UTF-8. -/

theorem toNat_byte {n : Nat} (h : n < 256) : (byte n).toNat = n := by
  simp [byte]
  omega

theorem isTail_byte {n : Nat} (h : n < 64) : isTail (byte (0x80 + n)) = true := by
  simp [isTail, toNat_byte (show 0x80 + n < 256 by omega)]
  omega

theorem tailBits_byte {n : Nat} (h : n < 64) : tailBits (byte (0x80 + n)) = n := by
  have hbyte : (byte (0x80 + n)).toNat = 0x80 + n := toNat_byte (by omega)
  unfold tailBits
  omega

theorem isSecond_byte {a n : Nat} (ha : a < 256) (hn : n < 64)
    (h : (a = 0xE0 → 0x20 ≤ n) ∧ (a = 0xED → n < 0x20) ∧ (a = 0xF0 → 0x10 ≤ n) ∧
      (a = 0xF4 → n < 0x10)) :
    isSecond (byte a) (byte (0x80 + n)) = true := by
  have hb : (byte (0x80 + n)).toNat = 0x80 + n := toNat_byte (by omega)
  simp only [isSecond, isTail_byte hn, toNat_byte ha, hb, Bool.true_and, Bool.and_eq_true,
    Bool.not_eq_true', Bool.and_eq_false_imp, beq_iff_eq, decide_eq_false_iff_not]
  omega

theorem opening_encodeChar (c : Char) :
    ∃ a following, encodeChar c = a :: following ∧
      ∀ rest, opening a (following ++ rest) = .letter c (following.length + 1) := by
  have hc : Char.ofNat c.toNat = c := Char.ofNat_toNat c
  have hvalid : c.toNat < 0xD800 ∨ 0xDFFF < c.toNat ∧ c.toNat < 0x110000 := c.valid
  generalize hn : c.toNat = n at hc hvalid
  unfold encodeChar
  simp only [hn]
  split
  · refine ⟨_, _, rfl, fun rest => ?_⟩
    simp [opening, letterOf, toNat_byte (show n < 256 by omega), *]
  · split
    · refine ⟨_, _, rfl, fun rest => ?_⟩
      have ha : (byte (0xC0 + n / 64)).toNat = 0xC0 + n / 64 := toNat_byte (by omega)
      have hs := isSecond_byte (a := 0xC0 + n / 64) (n := n % 64) (by omega) (by omega) (by omega)
      simp only [opening, List.cons_append, List.nil_append, ha, hs,
        tailBits_byte (show n % 64 < 64 by omega)]
      rw [if_neg (by omega), if_neg (by omega), if_neg (by simp), if_pos (by omega), letterOf,
        show (0xC0 + n / 64 - 0xC0) * 64 + n % 64 = n by omega, hc]
      rfl
    · split
      · refine ⟨_, _, rfl, fun rest => ?_⟩
        have ha : (byte (0xE0 + n / 4096)).toNat = 0xE0 + n / 4096 := toNat_byte (by omega)
        have hs := isSecond_byte (a := 0xE0 + n / 4096) (n := n / 64 % 64) (by omega) (by omega)
          (by omega)
        simp only [opening, List.cons_append, List.nil_append, ha, hs,
          isTail_byte (show n % 64 < 64 by omega), tailBits_byte (show n % 64 < 64 by omega),
          tailBits_byte (show n / 64 % 64 < 64 by omega)]
        rw [if_neg (by omega), if_neg (by omega), if_neg (by simp), if_neg (by omega),
          if_neg (by simp), if_pos (by omega), letterOf,
          show (0xE0 + n / 4096 - 0xE0) * 4096 + n / 64 % 64 * 64 + n % 64 = n by omega, hc]
        rfl
      · refine ⟨_, _, rfl, fun rest => ?_⟩
        have ha : (byte (0xF0 + n / 262144)).toNat = 0xF0 + n / 262144 := toNat_byte (by omega)
        have hs := isSecond_byte (a := 0xF0 + n / 262144) (n := n / 4096 % 64) (by omega)
          (by omega) (by omega)
        simp only [opening, List.cons_append, List.nil_append, ha, hs,
          isTail_byte (show n % 64 < 64 by omega), isTail_byte (show n / 64 % 64 < 64 by omega),
          tailBits_byte (show n % 64 < 64 by omega), tailBits_byte (show n / 64 % 64 < 64 by omega),
          tailBits_byte (show n / 4096 % 64 < 64 by omega)]
        rw [if_neg (by omega), if_neg (by omega), if_neg (by simp), if_neg (by omega),
          if_neg (by simp), if_neg (by omega), if_neg (by simp), letterOf,
          show (0xF0 + n / 262144 - 0xF0) * 262144 + n / 4096 % 64 * 4096 + n / 64 % 64 * 64 +
            n % 64 = n by omega, hc]
        rfl

theorem piecesFrom_append (skipped rest : Bytes) :
    piecesFrom skipped.length (skipped ++ rest) = pieces rest := by
  induction skipped with
  | nil => rfl
  | cons b skipped ih => exact ih

theorem pieces_encodeChar (c : Char) (rest : Bytes) :
    pieces (encodeChar c ++ rest) = .letter c (encodeChar c).length :: pieces rest := by
  obtain ⟨a, following, hencode, hopening⟩ := opening_encodeChar c
  rw [hencode, pieces, List.cons_append, piecesFrom, hopening rest]
  exact congrArg _ (piecesFrom_append following rest)

theorem pieces_encodeChars (chars : List Char) :
    pieces (encodeChars chars) = chars.map fun c => .letter c (encodeChar c).length := by
  induction chars with
  | nil => rfl
  | cons c chars ih =>
      rw [show encodeChars (c :: chars) = encodeChar c ++ encodeChars chars from rfl,
        pieces_encodeChar, ih, List.map_cons]

theorem readPieces_letters (position : Nat) (chars : List Char) (size : Char → Nat) :
    readPieces position (chars.map fun c => .letter c (size c)) = .ok (.ofChars chars) := by
  induction chars generalizing position with
  | nil => rfl
  | cons c chars ih => rw [List.map_cons, readPieces, ih]; rfl

@[simp] theorem decode_encodeChars (chars : List Char) :
    decode (encodeChars chars) = .ok (.ofChars chars) := by
  rw [decode, pieces_encodeChars, readPieces_letters]

@[simp] theorem decodeLenient_encodeChars (chars : List Char) :
    decodeLenient (encodeChars chars) = .ofChars chars := by
  rw [decodeLenient, pieces_encodeChars, List.map_map]
  rfl

theorem obstacleFrom?_eq_none_iff (position : Nat) (text : Text) :
    obstacleFrom? (fun _ => false) position text = none ↔ ∃ chars, text = .ofChars chars := by
  induction text generalizing position with
  | nil => exact ⟨fun _ => ⟨[], rfl⟩, fun _ => rfl⟩
  | cons letter text ih =>
      cases letter with
      | char c =>
          rw [obstacleFrom?, ih]
          constructor
          · rintro ⟨chars, rfl⟩
            exact ⟨c :: chars, rfl⟩
          · rintro ⟨chars, h⟩
            cases chars with
            | nil => exact absurd h (by simp [Text.ofChars])
            | cons d chars => exact ⟨chars, (List.cons.inj h).2⟩
      | surrogate half =>
          rw [obstacleFrom?]
          constructor
          · intro h
            simp at h
          · rintro ⟨chars, h⟩
            cases chars with
            | nil => exact absurd h (by simp [Text.ofChars])
            | cons d chars => exact absurd (List.cons.inj h).1 (by simp)

theorem flatMap_encodeLetter (chars : List Char) :
    (Text.ofChars chars).flatMap encodeLetter = encodeChars chars := by
  induction chars with
  | nil => rfl
  | cons c chars ih =>
      rw [show Text.ofChars (c :: chars) = .char c :: Text.ofChars chars from rfl,
        List.flatMap_cons, ih]
      rfl

/-- What can be written is the texts of characters. -/
theorem encode_eq_ok_iff {text : Text} {bytes : Bytes} :
    encode text = .ok bytes ↔ ∃ chars, text = .ofChars chars ∧ bytes = encodeChars chars := by
  unfold encode encodeWith
  constructor
  · intro h
    split at h
    · cases h
    · rename_i hnone
      obtain ⟨chars, rfl⟩ := (obstacleFrom?_eq_none_iff 0 text).mp hnone
      cases h
      exact ⟨chars, rfl, flatMap_encodeLetter chars⟩
  · rintro ⟨chars, rfl, rfl⟩
    rw [(obstacleFrom?_eq_none_iff 0 _).mpr ⟨chars, rfl⟩, flatMap_encodeLetter]

theorem decode_of_encode {text : Text} {bytes : Bytes} (h : encode text = .ok bytes) :
    decode bytes = .ok text := by
  obtain ⟨chars, rfl, rfl⟩ := encode_eq_ok_iff.mp h
  exact decode_encodeChars chars

end Utf8

end ReleaseNotes
