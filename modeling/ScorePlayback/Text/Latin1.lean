import ScorePlayback.Text.Unencodable

/-! Text of one byte per character. Only the first 256 characters have one. -/

namespace ScorePlayback.Text

namespace Latin1

def fits (unit : TextUnit) : Bool := unit.point < 0x100

def encode (text : LooseText) : Except UnencodableRun (List UInt8) :=
  match UnencodableRun.find? fits (!fits ·) text with
  | none => .ok (text.units.map fun unit => unit.point.toUInt8)
  | some run => .error run

end Latin1

end ScorePlayback.Text
