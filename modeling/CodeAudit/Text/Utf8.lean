import CodeAudit.Text.Quoted

/-!
Strict reading of UTF-8: the first byte sequence that is no character is a fault with its place and its reason.
-/

namespace CodeAudit.Text.Utf8

/-- Why bytes are no character. -/
inductive Reason where
  | badStart
  | badContinuation
  /-- The bytes end within a character. -/
  | ended
deriving DecidableEq

def Reason.message : Reason → String
  | badStart => "invalid start byte"
  | badContinuation => "invalid continuation byte"
  | ended => "unexpected end of data"

/-- Bytes that are no character: the first of them, its place and their number. -/
structure Fault where
  byte : UInt8
  place : Nat
  length : Nat
  reason : Reason
deriving DecidableEq

def Fault.message (f : Fault) : String :=
  if f.length = 1 then
    s!"'utf-8' codec can't decode byte 0x{String.ofList (hexDigits 2 f.byte.toNat)} " ++
      s!"in position {f.place}: {f.reason.message}"
  else
    s!"'utf-8' codec can't decode bytes in position {f.place}-{f.place + f.length - 1}: {f.reason.message}"

/-- A character on the way. -/
structure Pending where
  first : UInt8
  /-- The bits read so far. -/
  bits : Nat
  /-- How many bytes were read, and how many are to come. -/
  count : Nat
  missing : Nat

/-- What the first byte of a character of several bytes promises. -/
def pending? (b : UInt8) : Option Pending :=
  if 0xc2 ≤ b ∧ b ≤ 0xdf then some ⟨b, b.toNat % 32, 1, 1⟩
  else if 0xe0 ≤ b ∧ b ≤ 0xef then some ⟨b, b.toNat % 16, 1, 2⟩
  else if 0xf0 ≤ b ∧ b ≤ 0xf4 then some ⟨b, b.toNat % 8, 1, 3⟩
  else none

/-- Whether a byte goes on with a character; the second one must not make it longer than it needs to be, half of a
pair, or too great. -/
def Pending.accepts (p : Pending) (b : UInt8) : Bool :=
  0x80 ≤ b && b ≤ 0xbf &&
    (p.count != 1 ||
      ((p.first != 0xe0 || 0xa0 ≤ b) && (p.first != 0xed || b < 0xa0) &&
        (p.first != 0xf0 || 0x90 ≤ b) && (p.first != 0xf4 || b < 0x90)))

/-- The rest of some bytes from a place on, with the characters before it in reverse order. -/
def decodeFrom : List UInt8 → Option Pending → Nat → List Char → Except Fault (List Char)
  | [], none, _, done => .ok done.reverse
  | [], some p, place, _ => .error ⟨p.first, place - p.count, p.count, .ended⟩
  | b :: rest, none, place, done =>
    if b < 0x80 then decodeFrom rest none (place + 1) (Char.ofNat b.toNat :: done)
    else match pending? b with
      | some p => decodeFrom rest (some p) (place + 1) done
      | none => .error ⟨b, place, 1, .badStart⟩
  | b :: rest, some p, place, done =>
    if p.accepts b then
      let bits := p.bits * 64 + b.toNat % 64
      if p.missing ≤ 1 then decodeFrom rest none (place + 1) (Char.ofNat bits :: done)
      else decodeFrom rest (some ⟨p.first, bits, p.count + 1, p.missing - 1⟩) (place + 1) done
    else .error ⟨p.first, place - p.count, p.count, .badContinuation⟩

/-- The characters that bytes encode. -/
def decode (bytes : List UInt8) : Except Fault (List Char) :=
  decodeFrom bytes none 0 []

end CodeAudit.Text.Utf8
