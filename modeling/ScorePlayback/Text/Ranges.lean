/-! Sets of characters given by ranges of code points, both ends included. -/

namespace ScorePlayback.Text

def inRanges (ranges : List (Nat × Nat)) (point : Nat) : Bool :=
  ranges.any fun range => range.1 ≤ point && point ≤ range.2

end ScorePlayback.Text
