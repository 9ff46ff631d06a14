/-!
# UTF-8

Decoding of bytes with the place and the reason of the first fault. Overlong forms,
surrogates and code points above `U+10FFFF` are refused at the first byte that rules
them out, so a fault covers one to three bytes.
-/

namespace Crosslink.Text.Utf8

/-- Why a byte sequence is not a character. -/
inductive Reason where
  | invalidStart
  | invalidContinuation
  | truncated
  deriving DecidableEq, Repr

/-- The wording of a reason. -/
def Reason.text : Reason → String
  | .invalidStart => "invalid start byte"
  | .invalidContinuation => "invalid continuation byte"
  | .truncated => "unexpected end of data"

/-- The first place at which bytes cannot be decoded. -/
structure Fault where
  /-- Offset of the first byte that is part of the fault. -/
  start : Nat
  /-- Number of bytes in the fault, at least one. -/
  size : Nat
  /-- The byte at `start`. -/
  first : UInt8
  /-- Why the bytes are no character. -/
  reason : Reason
  deriving DecidableEq, Repr

/-- A continuation byte lies between `0x80` and `0xBF`. -/
def isTail (b : UInt8) : Bool := 0x80 ≤ b && b ≤ 0xBF

/-- May `b` follow the leading byte `a`? Overlong forms and surrogates end here. -/
def isSecond (a b : UInt8) : Bool :=
  isTail b && (if a == 0xE0 then 0xA0 ≤ b
    else if a == 0xED then b ≤ 0x9F
    else if a == 0xF0 then 0x90 ≤ b
    else if a == 0xF4 then b ≤ 0x8F
    else true)

/-- The six payload bits of a continuation byte. -/
def tailBits (b : UInt8) : Nat := b.toNat % 64

/-- The character at the front and the number of bytes after the first that it takes,
or the size and reason of the fault there. -/
def leading : List UInt8 → Except (Nat × Reason) (Char × Nat)
  | [] => .error (1, .truncated)
  | a :: rest =>
    if a < 0x80 then .ok (Char.ofNat a.toNat, 0)
    else if a < 0xC2 || 0xF4 < a then .error (1, .invalidStart)
    else match rest with
      | [] => .error (1, .truncated)
      | b :: rest =>
        if !isSecond a b then .error (1, .invalidContinuation)
        else if a < 0xE0 then .ok (Char.ofNat (a.toNat % 32 * 64 + tailBits b), 1)
        else match rest with
          | [] => .error (2, .truncated)
          | c :: rest =>
            if !isTail c then .error (2, .invalidContinuation)
            else if a < 0xF0 then
              .ok (Char.ofNat (a.toNat % 16 * 4096 + tailBits b * 64 + tailBits c), 2)
            else match rest with
              | [] => .error (3, .truncated)
              | d :: _ =>
                if !isTail d then .error (3, .invalidContinuation)
                else .ok (Char.ofNat (a.toNat % 8 * 262144 + tailBits b * 4096
                  + tailBits c * 64 + tailBits d), 3)

/-- Decode from offset `pos`, the first `skip` bytes being part of the last character. -/
def decodeFrom : (skip pos : Nat) → List UInt8 → Except Fault (List Char)
  | _, _, [] => .ok []
  | skip + 1, pos, _ :: bs => decodeFrom skip (pos + 1) bs
  | 0, pos, b :: bs =>
    match leading (b :: bs) with
    | .error (size, reason) => .error ⟨pos, size, b, reason⟩
    | .ok (c, extra) => (c :: ·) <$> decodeFrom extra (pos + 1) bs

/-- The text that the bytes spell, or the first fault. -/
def decode (bs : List UInt8) : Except Fault (List Char) := decodeFrom 0 0 bs

/-- The bytes that spell a text. -/
def encode (cs : List Char) : List UInt8 := cs.flatMap String.utf8EncodeChar

end Crosslink.Text.Utf8
