/-
Bodies that are nested too deep. The reader opens a container only while
it has room for it; a text that begins with more opening brackets than
there is room for is refused at the first of them that is too many, and
what stands behind it is not looked at (`readChars_opened`).

# From characters to bytes

A body is bytes in some encoding, and the encoding is guessed from the
first four of them. Bytes below 0x80 are their own characters, and four
opening brackets in front show UTF-8, so that the same holds of a body
(`readBody_opened`): whether it is JSON does not come into it. This is
what a fetch of such a body breaks on.
-/
import SchemaAudit.Http.Body

namespace SchemaAudit

-- ================================================================ texts

namespace Json

/-- Characters that begin with a number of opening brackets. -/
def opened (n : Nat) (rest : List Char) : List Char :=
  List.replicate n '[' ++ rest

/-- Brackets that outnumber the room are refused, given the fuel to get
there: two units for each container. The induction is on the room, which
is one less inside each bracket. -/
theorem readValue_opened {room n fuel : Nat} (rest : List Char)
    (hn : room < n) (hfuel : 2 * room < fuel) :
    readValue fuel room (opened n rest) = .error (.tooDeep .array) := by
  induction room generalizing n fuel with
  | zero =>
      obtain ⟨n, rfl⟩ : ∃ k, n = k + 1 := ⟨n - 1, by omega⟩
      obtain ⟨fuel, rfl⟩ : ∃ k, fuel = k + 1 := ⟨fuel - 1, by omega⟩
      rfl
  | succ room ih =>
      -- two brackets are there: this one and one that is not a gap
      obtain ⟨n, rfl⟩ : ∃ k, n = k + 2 := ⟨n - 2, by omega⟩
      obtain ⟨fuel, rfl⟩ : ∃ k, fuel = k + 2 := ⟨fuel - 2, by omega⟩
      have hinner : readValue fuel room (opened (n + 1) rest)
          = .error (.tooDeep .array) := ih (by omega) (by omega)
      have hvalue : readValue (fuel + 2) (room + 1) (opened (n + 2) rest)
          = readItems (fuel + 1) room [] (opened (n + 1) rest) := rfl
      rw [hvalue]
      unfold readItems
      rw [hinner]
      rfl

/-- A text that opens more arrays than may stand in one another is refused
for that, whatever follows. The length of the text is fuel enough, since
every bracket is a character of it. -/
theorem readChars_opened {n : Nat} (rest : List Char)
    (hn : maxDepth < n) :
    readChars (opened n rest) = .error (.tooDeep .array) := by
  have hlength : n ≤ (opened n rest).length := by
    unfold opened
    rw [List.length_append, List.length_replicate]
    exact Nat.le_add_right ..
  have hvalue := readValue_opened rest hn
    (show 2 * maxDepth < 2 * (opened n rest).length + 1 by omega)
  obtain ⟨n, rfl⟩ : ∃ k, n = k + 1 := ⟨n - 1, by omega⟩
  show (readValue (2 * (opened (n + 1) rest).length + 1) maxDepth
    (opened (n + 1) rest) >>= _) = _
  rw [hvalue]
  rfl

end Json

-- ================================================================ bytes

/-- Bytes that are characters of their own. -/
def IsAscii (bytes : List UInt8) : Prop := ∀ b ∈ bytes, b < 0x80

/-- The characters that such bytes are. -/
def asciiChars (bytes : List UInt8) : List Char :=
  bytes.map fun b => Char.ofNat b.toNat

/-- Bytes below 0x80 decode to the characters of the same numbers, from
any position and with no fault. -/
theorem Text.decodeFrom_ascii {bytes : List UInt8} (h : IsAscii bytes)
    (position : Nat) :
    Text.decodeFrom position 0 bytes = .ok (asciiChars bytes) := by
  induction bytes generalizing position with
  | nil => rfl
  | cons b rest ih =>
      obtain ⟨hb, hrest⟩ := List.forall_mem_cons.1 h
      have hlead : Text.leadByte b.toNat = (1, b.toNat) :=
        if_pos hb
      unfold Text.decodeFrom
      simp only [hlead, Nat.one_ne_zero, if_false]
      show (Text.decodeFrom (position + 1) 0 rest >>= _) = _
      rw [ih hrest]
      rfl

namespace Http

/-- Bytes below 0x80 hold no half of a pair, since such a half begins with
a byte above it. -/
theorem replaceHalves_ascii {bytes : List UInt8} (h : IsAscii bytes) :
    replaceHalves bytes = bytes := by
  have hne : ∀ b : UInt8, b < 0x80 → b ≠ 0xed := by
    intro b hb he
    rw [he] at hb
    exact absurd hb (by decide)
  fun_induction replaceHalves bytes with
  | case1 b c rest hhalf ih =>
      exact absurd rfl (hne _ (List.forall_mem_cons.1 h).1)
  | case2 b c rest hhalf ih =>
      exact absurd rfl (hne _ (List.forall_mem_cons.1 h).1)
  | case3 b rest _ ih => rw [ih (List.forall_mem_cons.1 h).2]
  | case4 => rfl

/-- Bytes below 0x80 that are taken for UTF-8 are read as they stand. -/
theorem decode?_ascii {bytes : List UInt8} (h : IsAscii bytes) :
    decode? bytes (.utf8 0) = some (asciiChars bytes) := by
  unfold decode? Text.decodeUtf8
  simp only [List.drop_zero, replaceHalves_ascii h, Text.decodeFrom_ascii h]
  show some (String.ofList (asciiChars bytes)).toList = _
  rw [String.toList_ofList]

/-- A body that opens more arrays than may stand in one another is refused
for that, whatever follows as long as it is below 0x80. -/
theorem readBody_opened {n : Nat} {rest : List UInt8}
    (hn : Json.maxDepth < n) (hrest : IsAscii rest) :
    readBody (List.replicate n 0x5b ++ rest)
      = .error (.tooDeep .array) := by
  have hascii : IsAscii (List.replicate n 0x5b ++ rest) := by
    intro b hb
    rcases List.mem_append.1 hb with hb | hb
    · rw [List.eq_of_mem_replicate hb]
      decide
    · exact hrest b hb
  have hchars : asciiChars (List.replicate n 0x5b ++ rest)
      = Json.opened n (asciiChars rest) := by
    unfold asciiChars Json.opened
    rw [List.map_append, List.map_replicate]
    rfl
  -- four brackets in front show that the body is UTF-8
  have hencoding : encodingOf (List.replicate n 0x5b ++ rest)
      = .utf8 0 := by
    have hmax : Json.maxDepth = 985 := rfl
    obtain ⟨n, rfl⟩ : ∃ k, n = k + 4 := ⟨n - 4, by omega⟩
    rfl
  unfold readBody
  rw [hencoding, decode?_ascii hascii, hchars]
  simp only [Json.readChars_opened _ hn]
  rfl

end Http

end SchemaAudit
