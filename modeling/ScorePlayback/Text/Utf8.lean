import ScorePlayback.Text.Unencodable

/-! Bytes read and written as UTF-8. The first sequence that is broken is reported with the bytes
that were read of it: those up to the first one that cannot continue it. Halves of pairs have no
bytes, and the first run of them is reported. -/

namespace ScorePlayback.Text

namespace Utf8

inductive Reason
  | invalidStart
  | invalidContinuation
  | unexpectedEnd
deriving DecidableEq, Repr

def Reason.text : Reason → String
  | .invalidStart => "invalid start byte"
  | .invalidContinuation => "invalid continuation byte"
  | .unexpectedEnd => "unexpected end of data"

structure Fault where
  lead : UInt8
  start : Nat
  count : Nat
  reason : Reason
deriving DecidableEq, Repr

/-- A sequence of which `count` bytes from `start` are read and `missing` are to come. The next
byte lies between `low` and `high`. -/
structure Pending where
  lead : UInt8
  start : Nat
  count : Nat
  missing : Nat
  value : Nat
  low : UInt8
  high : UInt8

/-- What a byte that is not ASCII begins. The second byte is bounded so that no sequence is longer
than needed, names half of a pair, or lies beyond the last plane. -/
def Pending.ofLead? (lead : UInt8) (start : Nat) : Option Pending :=
  let pending (missing value : Nat) (low high : UInt8) : Option Pending :=
    some { lead, start, count := 1, missing, value, low, high }
  if lead < 0xc2 then none
  else if lead < 0xe0 then pending 1 (lead.toNat - 0xc0) 0x80 0xbf
  else if lead = 0xe0 then pending 2 0 0xa0 0xbf
  else if lead = 0xed then pending 2 0xd 0x80 0x9f
  else if lead < 0xf0 then pending 2 (lead.toNat - 0xe0) 0x80 0xbf
  else if lead = 0xf0 then pending 3 0 0x90 0xbf
  else if lead < 0xf4 then pending 3 (lead.toNat - 0xf0) 0x80 0xbf
  else if lead = 0xf4 then pending 3 4 0x80 0x8f
  else none

def Pending.fault (pending : Pending) (reason : Reason) : Fault :=
  { lead := pending.lead, start := pending.start, count := pending.count, reason }

/-- `read` holds the characters so far, the latest first. -/
def decodeFrom (position : Nat) (read : List Char) :
    Option Pending → List UInt8 → Except Fault (List Char)
  | none, [] => .ok read.reverse
  | some pending, [] => .error (pending.fault .unexpectedEnd)
  | none, byte :: rest =>
    if byte < 0x80 then decodeFrom (position + 1) (Char.ofNat byte.toNat :: read) none rest
    else
      match Pending.ofLead? byte position with
      | none => .error { lead := byte, start := position, count := 1, reason := .invalidStart }
      | some pending => decodeFrom (position + 1) read (some pending) rest
  | some pending, byte :: rest =>
    if pending.low ≤ byte && byte ≤ pending.high then
      let value := pending.value * 64 + (byte.toNat - 0x80)
      if pending.missing ≤ 1 then
        decodeFrom (position + 1) (Char.ofNat value :: read) none rest
      else
        decodeFrom (position + 1) read (some { pending with
          count := pending.count + 1, missing := pending.missing - 1, value,
          low := 0x80, high := 0xbf }) rest
    else .error (pending.fault .invalidContinuation)

def decode (bytes : List UInt8) : Except Fault (List Char) := decodeFrom 0 [] none bytes

/-- The first run of halves of pairs. -/
def unencodable? (text : LooseText) : Option UnencodableRun :=
  UnencodableRun.find? (!·.isHalf) (·.isHalf) text

def unencodableMessage (run : UnencodableRun) : String :=
  s!"'utf-8' codec can't encode {run.text}: surrogates not allowed"

def encode (text : LooseText) : Except UnencodableRun (List UInt8) :=
  match unencodable? text with
  | none => .ok text.mended.toUTF8.toList
  | some run => .error run

end Utf8

end ScorePlayback.Text
