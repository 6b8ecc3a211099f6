/-
  Transcripts/Text/Utf8.lean
  ==========================
  **Reading UTF-8, and saying where it is broken.**

  The decoder stops at the first byte sequence that no character is written
  by.  A fault names the offset of the sequence, its bytes as far as they could
  have begun a character, and what is wrong with it: a byte that begins no
  character, a byte that does not continue the one begun, or the end of the
  text in the middle of a character.
-/
import Transcripts.Text.Printable

namespace Transcripts.Text.Utf8

inductive Reason where
  | badStart
  | badContinuation
  | truncated
deriving DecidableEq, Repr

structure Fault where
  /-- The offset of its first byte. -/
  position : Nat
  byte : UInt8
  /-- How many bytes are part of it. -/
  length : Nat
  reason : Reason
deriving DecidableEq, Repr

def Reason.message : Reason → String
  | .badStart => "invalid start byte"
  | .badContinuation => "invalid continuation byte"
  | .truncated => "unexpected end of data"

def Fault.message (f : Fault) : String :=
  let place :=
    if f.length = 1 then
      "byte 0x" ++ .ofList (hexDigits 2 f.byte.toNat) ++ " in position " ++ toString f.position
    else
      "bytes in position " ++ toString f.position ++ "-" ++ toString (f.position + f.length - 1)
  "'utf-8' codec can't decode " ++ place ++ ": " ++ f.reason.message

/-- The least and the greatest second byte after each leading byte of a longer
    sequence, with the number of bytes that follow the leading one.  The bounds
    keep out overlong forms, surrogates and values beyond the last code point. -/
def sequenceShape (lead : UInt8) : Option (Nat × UInt8 × UInt8) :=
  if 0xC2 ≤ lead ∧ lead ≤ 0xDF then some (1, 0x80, 0xBF)
  else if lead = 0xE0 then some (2, 0xA0, 0xBF)
  else if lead = 0xED then some (2, 0x80, 0x9F)
  else if 0xE1 ≤ lead ∧ lead ≤ 0xEF then some (2, 0x80, 0xBF)
  else if lead = 0xF0 then some (3, 0x90, 0xBF)
  else if 0xF1 ≤ lead ∧ lead ≤ 0xF3 then some (3, 0x80, 0xBF)
  else if lead = 0xF4 then some (3, 0x80, 0x8F)
  else none

/-- The outcome of reading the bytes that continue a character: its code point
    and the bytes behind it, or how many bytes were good and what came then. -/
inductive Continued where
  | done (code : Nat) (rest : List UInt8)
  | broken (good : Nat) (reason : Reason)

/-- Read `missing` continuation bytes, the next of which lies within bounds. -/
def continued : (missing : Nat) → (low high : UInt8) → (code good : Nat) → List UInt8 → Continued
  | 0, _, _, code, _, bs => .done code bs
  | _ + 1, _, _, _, good, [] => .broken good .truncated
  | missing + 1, low, high, code, good, b :: bs =>
    if low ≤ b ∧ b ≤ high then
      continued missing 0x80 0xBF (code * 64 + (b.toNat - 0x80)) (good + 1) bs
    else .broken good .badContinuation

/-- What is left after the continuation bytes is no longer than before. -/
theorem continued_rest_length {missing low high code good bs code' rest}
    (h : continued missing low high code good bs = .done code' rest) : rest.length ≤ bs.length := by
  induction missing generalizing low high code good bs with
  | zero => simp only [continued, Continued.done.injEq] at h; simp [h.2]
  | succ n ih =>
    cases bs with
    | nil => simp [continued] at h
    | cons b bs =>
      simp only [continued] at h
      split at h
      · have := ih h; simp only [List.length_cons]; omega
      · simp at h

def decodeFrom (position : Nat) : List UInt8 → Except Fault (List Char)
  | [] => .ok []
  | b :: bs =>
    if b < 0x80 then do
      let cs ← decodeFrom (position + 1) bs
      return Char.ofNat b.toNat :: cs
    else match sequenceShape b with
      | none => .error ⟨position, b, 1, .badStart⟩
      | some (missing, low, high) =>
        match h : continued missing low high (b.toNat % (0x40 >>> missing)) 1 bs with
        | .broken good reason => .error ⟨position, b, good, reason⟩
        | .done code rest =>
          have : rest.length ≤ bs.length := continued_rest_length h
          do
            let cs ← decodeFrom (position + 1 + missing) rest
            return Char.ofNat code :: cs
termination_by bs => bs.length
decreasing_by all_goals simp only [List.length_cons]; omega

def decode (bytes : List UInt8) : Except Fault (List Char) := decodeFrom 0 bytes

/-- The text of bytes that are read in blocks.  A character may be cut by the end
    of a block; the place of a fault is counted from the start of the block that
    shows it, with what was cut off before it. -/
def decodeBlocks (size : Nat) : (blocks : Nat) → (pending bytes : List UInt8) →
    Except Fault (List Char)
  | 0, pending, bytes => decode (pending ++ bytes)
  | blocks + 1, pending, bytes =>
    if bytes.isEmpty then decode pending
    else
      let block := pending ++ bytes.take size
      match decode block with
      | .ok cs => (decodeBlocks size blocks [] (bytes.drop size)).map (cs ++ ·)
      | .error fault =>
        if fault.reason = .truncated then do
          let cs ← decode (block.take fault.position)
          return cs ++ (← decodeBlocks size blocks (block.drop fault.position) (bytes.drop size))
        else .error fault

end Transcripts.Text.Utf8
