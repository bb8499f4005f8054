/-
Module: MonitorSplit.Text.Utf8
Purpose: UTF-8 octets read as text, with the place and reason of the first fault.
Main exports:
  FaultReason, Fault, Fault.message, decode, decodeLossy
-/
import MonitorSplit.Text.Quoted

namespace MonitorSplit.Text.Utf8

/-!
Octets are cut into pieces from the left.  A piece is either the whole encoding of
one character, or a maximal start of one that cannot be completed; the latter is as
long as it stayed valid, and at least one octet.  The strict reading stops at the
first bad piece and reports it; the lossy reading puts one replacement character in
the place of each.
-/

/-- Why octets are no encoding of a character. -/
inductive FaultReason where
  | invalidStart
  | invalidContinuation
  | unexpectedEnd
deriving DecidableEq, Repr, Inhabited

/-- The wording of a reason. -/
def FaultReason.message : FaultReason → String
  | .invalidStart => "invalid start byte"
  | .invalidContinuation => "invalid continuation byte"
  | .unexpectedEnd => "unexpected end of data"

/-- A bad piece: its reason, its place, its first octet and how many octets follow
that one in the piece. -/
structure Fault where
  reason : FaultReason
  position : Nat
  octet : UInt8
  following : Nat
deriving DecidableEq, Repr, Inhabited

/-- The wording of a fault. -/
def Fault.message (fault : Fault) : String :=
  let place :=
    if fault.following = 0 then
      s!"byte 0x{String.ofList (hexDigits 2 fault.octet.toNat)} in position {fault.position}"
    else s!"bytes in position {fault.position}-{fault.position + fault.following}"
  s!"'utf-8' codec can't decode {place}: {fault.reason.message}"

/-- The piece at the start of some octets, with the number of octets it holds after
its first. -/
inductive Piece where
  | scalar (c : Char) (following : Nat)
  | bad (reason : FaultReason) (following : Nat)
deriving DecidableEq, Repr, Inhabited

/-- How many octets a piece holds after its first. -/
def Piece.following : Piece → Nat
  | .scalar _ following => following
  | .bad _ following => following

/-- Complete a piece of which `following` octets after the first are read and
`missing` more are due.  The next of them lies between `low` and `high`; all later
ones between `0x80` and `0xBF`. -/
def completePiece (code following : Nat) : (missing low high : Nat) → List UInt8 → Piece
  | 0, _, _, _ => .scalar (Char.ofNat code) following
  | _ + 1, _, _, [] => .bad .unexpectedEnd following
  | missing + 1, low, high, octet :: rest =>
      if low ≤ octet.toNat && octet.toNat ≤ high then
        completePiece (code * 64 + (octet.toNat - 0x80)) (following + 1) missing 0x80 0xBF rest
      else .bad .invalidContinuation following

/-- The piece that begins with an octet.  The range of the second octet excludes
overlong forms, surrogates and numbers past the last code point. -/
def firstPiece (octet : UInt8) (rest : List UInt8) : Piece :=
  let lead := octet.toNat
  if lead < 0x80 then .scalar (Char.ofNat lead) 0
  else if lead < 0xC2 then .bad .invalidStart 0
  else if lead < 0xE0 then completePiece (lead - 0xC0) 0 1 0x80 0xBF rest
  else if lead < 0xF0 then
    completePiece (lead - 0xE0) 0 2 (if lead = 0xE0 then 0xA0 else 0x80)
      (if lead = 0xED then 0x9F else 0xBF) rest
  else if lead < 0xF5 then
    completePiece (lead - 0xF0) 0 3 (if lead = 0xF0 then 0x90 else 0x80)
      (if lead = 0xF4 then 0x8F else 0xBF) rest
  else .bad .invalidStart 0

/-- The text that octets from a position on encode, or their first fault. -/
def decodeFrom (position : Nat) : List UInt8 → Except Fault (List Char)
  | [] => .ok []
  | octet :: rest =>
      match firstPiece octet rest with
      | .scalar c following =>
          (decodeFrom (position + following + 1) (rest.drop following)).map (c :: ·)
      | .bad reason following => .error { reason, position, octet, following }
termination_by octets => octets.length
decreasing_by simp only [List.length_drop, List.length_cons]; omega

/-- The text that octets encode, or their first fault. -/
def decode (octets : List UInt8) : Except Fault String :=
  (decodeFrom 0 octets).map String.ofList

/-- The character that stands for a bad piece. -/
def replacement : Char := Char.ofNat 0xFFFD

/-- The characters that octets encode, each bad piece replaced by one character. -/
def lossyChars : List UInt8 → List Char
  | [] => []
  | octet :: rest =>
      match firstPiece octet rest with
      | .scalar c following => c :: lossyChars (rest.drop following)
      | .bad _ following => replacement :: lossyChars (rest.drop following)
termination_by octets => octets.length
decreasing_by all_goals simp only [List.length_drop, List.length_cons]; omega

/-- The text that octets encode, each bad piece replaced by one character. -/
def decodeLossy (octets : List UInt8) : String := String.ofList (lossyChars octets)

/-- The octets that encode a text. -/
def encode (text : String) : List UInt8 := text.toUTF8.toList

end MonitorSplit.Text.Utf8
