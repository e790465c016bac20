import Multiplex.Calendar.Field

/-!
# Reading positions

A `Cursor` stands in a window of bytes: `position` bytes of it have been read and `window` holds
those still to come. A `Reader` takes values off the front. A reader that asks for more than
there is fails with `overflow` and leaves the cursor where it was.
-/

namespace Multiplex.Wire

open Multiplex.Calendar Multiplex.Text

/-- Why a value could not be read. -/
inductive ReadError
  /-- More bytes were asked for than the window still holds. -/
  | overflow (offset wanted available : Nat)
  /-- A start field that names no instant. -/
  | invalidStart (field : StartField)
  deriving DecidableEq

/-- What went wrong, in words. -/
def ReadError.message : ReadError → String
  | .overflow offset wanted available =>
    s!"Overflow at offset {offset}: wanted {wanted} bytes, {available} available"
  | .invalidStart field =>
    "Invalid date field: [" ++ String.intercalate ", " (field.bytes.map (hexUpper 2 ·.toNat)) ++ "]"

/-- A position in a window of bytes. -/
structure Cursor where
  position : Nat
  window : List UInt8
  deriving DecidableEq

/-- A computation that reads from a cursor. The cursor is known after a failure as well. -/
abbrev Reader := EStateM ReadError Cursor

namespace Cursor

/-- The cursor at the start of `bytes`. -/
def ofBytes (bytes : List UInt8) : Cursor := ⟨0, bytes⟩

/-- Bytes still to come. -/
def remaining (c : Cursor) : Nat := c.window.length

/-- Whether at least `n` bytes are to come. Only these are looked at. -/
def holds (c : Cursor) (n : Nat) : Bool := (c.window.take n).length == n

theorem holds_iff {c : Cursor} {n : Nat} : c.holds n = true ↔ n ≤ c.remaining := by
  simp only [holds, remaining, List.length_take, beq_iff_eq]
  omega

/-- The position at which the window ends. -/
def stop (c : Cursor) : Nat := c.position + c.window.length

/-- Whether all has been read. -/
def atEnd (c : Cursor) : Bool := c.window.isEmpty

/-- The cursor `n` bytes further on. -/
def advance (c : Cursor) (n : Nat) : Cursor := ⟨c.position + n, c.window.drop n⟩

end Cursor

namespace Reader

/-- The next `n` bytes. -/
def bytes (n : Nat) : Reader (List UInt8) := fun c =>
  if c.holds n then .ok (c.window.take n) (c.advance n)
  else .error (.overflow c.position n c.remaining) c

/-- A number of `n` bytes, most significant first. -/
def number (n : Nat) : Reader Nat := return bigEndian (← bytes n)

/-- One byte. -/
def u8 : Reader UInt8 := return .ofNat (← number 1)

/-- A 16-bit word. -/
def u16 : Reader UInt16 := return .ofNat (← number 2)

/-- A 24-bit word. -/
def u24 : Reader UInt32 := return .ofNat (← number 3)

/-- A 32-bit word. -/
def u32 : Reader UInt32 := return .ofNat (← number 4)

/-- A cursor of its own over the next `n` bytes; offsets in it count from its start. -/
def sub (n : Nat) : Reader Cursor := return .ofBytes (← bytes n)

/-- Ends the window at position `n`, which has to lie ahead and within the window. -/
def truncate (n : Nat) : Reader Unit := fun c =>
  if c.position < n ∧ n ≤ c.stop then .ok () ⟨c.position, c.window.take (n - c.position)⟩
  else .error (.overflow c.position (n - c.position) c.remaining) c

/-- A start field that names an instant or none. The five bytes are passed even if they name
neither. -/
def start : Reader (Option DateTime) := do
  let field ← bytes 5
  let [d1, d0, hour, minute, second] := field | return none
  let field : StartField := ⟨.ofNat (bigEndian [d1, d0]), hour, minute, second⟩
  match field.decode? with
  | some start => return start
  | none => throw (.invalidStart field)

/-- A duration field. -/
def duration : Reader Duration := do
  let field ← bytes 3
  let [hours, minutes, seconds] := field | return .ofSeconds 0
  return DurationField.decode ⟨hours, minutes, seconds⟩

/-- Reads from a cursor of its own, whose bytes the parent has already passed. -/
def within (inner : Cursor) (r : Reader α) : Reader α := fun c =>
  match r inner with
  | .ok a _ => .ok a c
  | .error e _ => .error e c

/-- Reads items as long as `more` holds of the cursor, and stops after an item that took
nothing. -/
def many (more : Cursor → Bool) (item : Reader α) : Reader (List α) := fun c =>
  if more c then
    match item c with
    | .error e c' => .error e c'
    | .ok a c' =>
      if c'.remaining < c.remaining then
        match many more item c' with
        | .error e c'' => .error e c''
        | .ok as c'' => .ok (a :: as) c''
      else .ok [a] c'
  else .ok [] c
termination_by c => c.remaining

end Reader

end Multiplex.Wire
