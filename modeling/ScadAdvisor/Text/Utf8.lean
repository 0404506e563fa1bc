import ScadAdvisor.Text.Basic

/-! # UTF-8

A sequence that is cut short or broken is reported with the bytes of it that were right.
-/

namespace ScadAdvisor

inductive Utf8Reason where
  | invalidStart
  | invalidContinuation
  | unexpectedEnd
deriving DecidableEq, Repr

/-- The offsets of the bytes that are no character, from `start` up to `stop`. -/
structure Utf8Fault where
  start : Nat
  stop : Nat
  byte : UInt8
  reason : Utf8Reason
deriving DecidableEq, Repr

def Utf8Reason.text : Utf8Reason → Text
  | .invalidStart => "invalid start byte".toList
  | .invalidContinuation => "invalid continuation byte".toList
  | .unexpectedEnd => "unexpected end of data".toList

def Utf8Fault.message (fault : Utf8Fault) : Text :=
  let place :=
    if fault.stop == fault.start + 1 then
      "byte 0x".toList ++ Text.hex 2 fault.byte.toNat ++ " in position ".toList ++
        Text.ofNat fault.start
    else "bytes in position ".toList ++ Text.ofNat fault.start ++ ['-'] ++ Text.ofNat (fault.stop - 1)
  "'utf-8' codec can't decode ".toList ++ place ++ ": ".toList ++ fault.reason.text

namespace Utf8

/-- What a first byte asks for: its share of the code point, the number of bytes to follow, and the
bounds of the next one. -/
def lead? (b : Nat) : Option (Nat × Nat × Nat × Nat) :=
  if b < 0x80 then some (b, 0, 0x80, 0xBF)
  else if b < 0xC2 then none
  else if b < 0xE0 then some (b - 0xC0, 1, 0x80, 0xBF)
  -- The bounds leave out longer forms of what has a shorter one, surrogates, and what lies beyond the
  -- last code point.
  else if b == 0xE0 then some (0, 2, 0xA0, 0xBF)
  else if b == 0xED then some (0xD, 2, 0x80, 0x9F)
  else if b < 0xF0 then some (b - 0xE0, 2, 0x80, 0xBF)
  else if b == 0xF0 then some (0, 3, 0x90, 0xBF)
  else if b < 0xF4 then some (b - 0xF0, 3, 0x80, 0xBF)
  else if b == 0xF4 then some (4, 3, 0x80, 0x8F)
  else none

/-- The code point behind `n` more bytes, or how many of the bytes so far were right. -/
def follow : (n low high code taken : Nat) → List UInt8 → Except (Nat × Utf8Reason) Nat
  | 0, _, _, code, _, _ => .ok code
  | _ + 1, _, _, _, taken, [] => .error (taken, .unexpectedEnd)
  | n + 1, low, high, code, taken, b :: rest =>
    if low ≤ b.toNat && b.toNat ≤ high then
      follow n 0x80 0xBF (code * 64 + (b.toNat - 0x80)) (taken + 1) rest
    else .error (taken, .invalidContinuation)

/-- The characters of the bytes from offset `pos` on, the first `skip` bytes passed over. -/
def decodeFrom : (skip pos : Nat) → List UInt8 → Except Utf8Fault Text
  | _, _, [] => .ok []
  | skip + 1, pos, _ :: rest => decodeFrom skip (pos + 1) rest
  | 0, pos, b :: rest =>
    match lead? b.toNat with
    | none => .error ⟨pos, pos + 1, b, .invalidStart⟩
    | some (share, n, low, high) =>
      match follow n low high share 1 rest with
      | .error (taken, reason) => .error ⟨pos, pos + taken, b, reason⟩
      | .ok code => (decodeFrom n (pos + 1) rest).map (Char.ofNat code :: ·)

def decode (bytes : List UInt8) : Except Utf8Fault Text := decodeFrom 0 0 bytes

def size (text : Text) : Nat := text.foldl (fun n c => n + c.utf8Size) 0

end Utf8

/-- Every kind of line end becomes a newline. -/
def Text.unifyNewlines : Text → Text
  | [] => []
  | '\r' :: '\n' :: cs => '\n' :: unifyNewlines cs
  | c :: cs => (if c == '\r' then '\n' else c) :: unifyNewlines cs

end ScadAdvisor
