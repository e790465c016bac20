/-!
# UTF-8

Bytes to characters. `decodeUtf8` puts one U+FFFD for each longest run of bytes that begins a
character and does not end it, and for each byte that begins none; `decodeUtf8?` refuses such
bytes.
-/

namespace Multiplex.Text

/-- What the first byte of a character says of the others: how many follow, the range of the
next one, and the bits the first byte contributes. -/
structure Lead where
  tails : Nat
  low : UInt8
  high : UInt8
  bits : Nat

/-- The lead a byte stands for; none if no character begins with it. -/
def Lead.ofByte? (b : UInt8) : Option Lead :=
  if b < 0x80 then some ⟨0, 0x80, 0xBF, b.toNat⟩
  else if b < 0xC2 then none
  else if b < 0xE0 then some ⟨1, 0x80, 0xBF, b.toNat % 0x20⟩
  else if b = 0xE0 then some ⟨2, 0xA0, 0xBF, 0⟩
  else if b = 0xED then some ⟨2, 0x80, 0x9F, 0xD⟩
  else if b < 0xF0 then some ⟨2, 0x80, 0xBF, b.toNat % 0x10⟩
  else if b = 0xF0 then some ⟨3, 0x90, 0xBF, 0⟩
  else if b < 0xF4 then some ⟨3, 0x80, 0xBF, b.toNat % 0x08⟩
  else if b = 0xF4 then some ⟨3, 0x80, 0x8F, 4⟩
  else none

/-- Takes the bytes that follow a lead, as far as they are in range. Gives the code point if all
are there, and the bytes not taken. -/
def takeTails : (tails : Nat) → (low high : UInt8) → (bits : Nat) → List UInt8 →
    Option Nat × List UInt8
  | 0, _, _, bits, rest => (some bits, rest)
  | _ + 1, _, _, _, [] => (none, [])
  | tails + 1, low, high, bits, b :: rest =>
    if low ≤ b ∧ b ≤ high then takeTails tails 0x80 0xBF (bits * 0x40 + b.toNat % 0x40) rest
    else (none, b :: rest)

theorem length_takeTails_le (tails : Nat) (low high : UInt8) (bits : Nat) (rest : List UInt8) :
    (takeTails tails low high bits rest).2.length ≤ rest.length := by
  induction rest generalizing tails low high bits with
  | nil => cases tails <;> simp [takeTails]
  | cons b rest ih =>
    cases tails with
    | zero => simp [takeTails]
    | succ tails =>
      simp only [takeTails]
      split
      · exact Nat.le_trans (ih ..) (Nat.le_succ _)
      · simp

/-- The character at the start of the bytes, if there is a whole one, and the bytes after it. -/
def takeChar (b : UInt8) (rest : List UInt8) : Option Char × List UInt8 :=
  match Lead.ofByte? b with
  | none => (none, rest)
  | some lead =>
    let (code, rest) := takeTails lead.tails lead.low lead.high lead.bits rest
    (code.map Char.ofNat, rest)

theorem length_takeChar_le (b : UInt8) (rest : List UInt8) :
    (takeChar b rest).2.length ≤ rest.length := by
  unfold takeChar
  split
  · exact Nat.le_refl _
  · exact length_takeTails_le ..

/-- The characters of the bytes; none for each part that is no character. -/
def utf8Chars : List UInt8 → List (Option Char)
  | [] => []
  | b :: rest => (takeChar b rest).1 :: utf8Chars (takeChar b rest).2
termination_by bytes => bytes.length
decreasing_by exact Nat.lt_succ_of_le (length_takeChar_le b rest)

/-- The text of the bytes, U+FFFD for each part that is no character. -/
def decodeUtf8 (bytes : List UInt8) : List Char := (utf8Chars bytes).map (·.getD '\ufffd')

/-- The text of the bytes, when all of them are characters. -/
def decodeUtf8? (bytes : List UInt8) : Option (List Char) := (utf8Chars bytes).mapM id

end Multiplex.Text
