/-!
# UTF-8

Encoding writes each character as one to four bytes. Decoding reads one character at a
time. A sequence that cannot start a character, or stops being one, is rejected at its
longest prefix that could still have started a character, which is one to three bytes.
Input that ends inside such a prefix is incomplete. Strict decoding reports the first
problem with its byte offset. Lossy decoding writes one replacement character for each
rejected prefix and for an incomplete end.
-/
namespace DumpTopology.Text

/-- The bytes of one character. -/
def encodeChar (c : Char) : List UInt8 :=
  let n := c.toNat
  if n < 0x80 then [n.toUInt8]
  else if n < 0x800 then [(0xC0 + n / 64).toUInt8, (0x80 + n % 64).toUInt8]
  else if n < 0x10000 then
    [(0xE0 + n / 4096).toUInt8, (0x80 + n / 64 % 64).toUInt8, (0x80 + n % 64).toUInt8]
  else
    [(0xF0 + n / 262144).toUInt8, (0x80 + n / 4096 % 64).toUInt8,
      (0x80 + n / 64 % 64).toUInt8, (0x80 + n % 64).toUInt8]

/-- The bytes of a text. -/
def encodeUtf8 (s : String) : List UInt8 := s.toList.flatMap encodeChar

/-- A byte that continues a character. -/
def isContinuation (b : UInt8) : Bool := 0x80 ≤ b && b ≤ 0xBF

/-- The second byte allowed after a three-byte lead: no overlong forms and no surrogates. -/
def secondOfThree (lead b : UInt8) : Bool :=
  if lead == 0xE0 then 0xA0 ≤ b && b ≤ 0xBF
  else if lead == 0xED then 0x80 ≤ b && b ≤ 0x9F
  else isContinuation b

/-- The second byte allowed after a four-byte lead: no overlong forms and nothing past
the last code point. -/
def secondOfFour (lead b : UInt8) : Bool :=
  if lead == 0xF0 then 0x90 ≤ b && b ≤ 0xBF
  else if lead == 0xF4 then 0x80 ≤ b && b ≤ 0x8F
  else isContinuation b

/-- The outcome of reading one character. -/
inductive Utf8Step
  /-- A character of `width` bytes, and the bytes after it. -/
  | char (c : Char) (width : Nat) (rest : List UInt8)
  /-- The first `length` bytes are a rejected prefix. -/
  | invalid (length : Nat)
  /-- The input ends inside a character. -/
  | incomplete

/-- The payload bits of a continuation byte. -/
def payload (b : UInt8) : Nat := (b % 64).toNat

/-- Reads one character from a non-empty byte list. -/
def readChar (b : UInt8) (rest : List UInt8) : Utf8Step :=
  if b < 0x80 then .char (Char.ofNat b.toNat) 1 rest
  else if 0xC2 ≤ b && b ≤ 0xDF then
    match rest with
    | [] => .incomplete
    | b1 :: r =>
      if isContinuation b1 then .char (Char.ofNat ((b.toNat - 0xC0) * 64 + payload b1)) 2 r
      else .invalid 1
  else if 0xE0 ≤ b && b ≤ 0xEF then
    match rest with
    | [] => .incomplete
    | b1 :: r =>
      if secondOfThree b b1 then
        match r with
        | [] => .incomplete
        | b2 :: r2 =>
          if isContinuation b2 then
            .char (Char.ofNat ((b.toNat - 0xE0) * 4096 + payload b1 * 64 + payload b2)) 3 r2
          else .invalid 2
      else .invalid 1
  else if 0xF0 ≤ b && b ≤ 0xF4 then
    match rest with
    | [] => .incomplete
    | b1 :: r =>
      if secondOfFour b b1 then
        match r with
        | [] => .incomplete
        | b2 :: r2 =>
          if isContinuation b2 then
            match r2 with
            | [] => .incomplete
            | b3 :: r3 =>
              if isContinuation b3 then
                .char (Char.ofNat ((b.toNat - 0xF0) * 262144 + payload b1 * 4096
                  + payload b2 * 64 + payload b3)) 4 r3
              else .invalid 3
          else .invalid 2
      else .invalid 1
  else .invalid 1

/-- Why bytes are not UTF-8, with the offset of the first character that fails. -/
inductive Utf8Fault
  | invalid (length index : Nat)
  | incomplete (index : Nat)
  deriving Repr, DecidableEq

/-- The text of a decoding fault. -/
def Utf8Fault.message : Utf8Fault → String
  | .invalid n i => s!"invalid utf-8 sequence of {n} bytes from index {i}"
  | .incomplete i => s!"incomplete utf-8 byte sequence from index {i}"

/-- A width of one to four bytes is never more than the bytes it was read from. -/
theorem readChar_rest_length {b : UInt8} {rest r : List UInt8} {c : Char} {w : Nat}
    (h : readChar b rest = .char c w r) : r.length ≤ rest.length := by
  unfold readChar at h
  split at h
  · cases h; exact Nat.le_refl _
  split at h
  · split at h
    · cases h
    · split at h
      · cases h; simp
      · cases h
  split at h
  · split at h
    · cases h
    · split at h
      · split at h
        · cases h
        · split at h
          · cases h; simp; omega
          · cases h
      · cases h
  split at h
  · split at h
    · cases h
    · split at h
      · split at h
        · cases h
        · split at h
          · split at h
            · cases h
            · split at h
              · cases h; simp; omega
              · cases h
          · cases h
      · cases h
  · cases h

/-- Decodes bytes, the first of them at offset `index`, into characters. -/
def decodeFrom (index : Nat) : List UInt8 → Except Utf8Fault (List Char)
  | [] => .ok []
  | b :: rest =>
    match h : readChar b rest with
    | .char c w r =>
      have : r.length < rest.length + 1 := Nat.lt_succ_of_le (readChar_rest_length h)
      (decodeFrom (index + w) r).map (c :: ·)
    | .invalid n => .error (.invalid n index)
    | .incomplete => .error (.incomplete index)
termination_by bytes => bytes.length

/-- Strict decoding of a whole byte list. -/
def decodeUtf8 (bytes : List UInt8) : Except Utf8Fault String :=
  (decodeFrom 0 bytes).map String.ofList

/-- Passing over at least one byte of a list that has one leaves it shorter. -/
theorem drop_cons_length_lt (b : UInt8) (rest : List UInt8) (n : Nat) :
    ((b :: rest).drop (max n 1)).length < rest.length + 1 := by
  rw [List.length_drop, List.length_cons]; omega

/-- Lossy decoding: a rejected prefix or an incomplete end becomes `U+FFFD`. -/
def decodeLossyChars : List UInt8 → List Char
  | [] => []
  | b :: rest =>
    match h : readChar b rest with
    | .char c _ r =>
      have : r.length < rest.length + 1 := Nat.lt_succ_of_le (readChar_rest_length h)
      c :: decodeLossyChars r
    | .invalid n =>
      have := drop_cons_length_lt b rest n
      '�' :: decodeLossyChars ((b :: rest).drop (max n 1))
    | .incomplete => ['�']
termination_by bytes => bytes.length
decreasing_by all_goals assumption

/-- Lossy decoding of a whole byte list. -/
def decodeLossy (bytes : List UInt8) : String := String.ofList (decodeLossyChars bytes)

/-- Each byte as the character with that code, as Latin-1 reads it. -/
def decodeLatin1 (bytes : List UInt8) : String :=
  String.ofList (bytes.map fun b => Char.ofNat b.toNat)

end DumpTopology.Text
