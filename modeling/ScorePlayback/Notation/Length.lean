import ScorePlayback.Notation.Score

/-! Notated lengths in ticks. A note that begins a tie lasts as long as it and its partner, if the
partner is in the score; a chord lasts as long as its shortest note that ends no tie. -/

namespace ScorePlayback

/-- Ticks of a quarter note unless another number is asked for. -/
def defaultResolution : Int := 96

/-- The whole ticks in a number of units. -/
def ticksOfUnits (units resolution : Int) : Int := resolution * units / 96

theorem ticksOfUnits_whole (units count : Int) :
    ticksOfUnits units (96 * count) = count * units := by
  rw [ticksOfUnits, Int.mul_assoc]
  exact Int.mul_ediv_cancel_left _ (by decide)

/-- The units that a tie adds. Only one tie is followed: a partner that begins a further tie ends
this one, and what ends a tie is not played for itself. -/
def Note.partnerUnits (note : Note) (score : Score) : Nat :=
  if note.beginsTie then ((note.tiedTo.bind score.find?).map Note.duration).getD 0 else 0

def Note.ticks (note : Note) (score : Score) (resolution : Int) : Int :=
  ticksOfUnits (note.duration + note.partnerUnits score) resolution

def Chord.ticks (chord : Chord) (score : Score) (resolution : Int) : Int :=
  ((Chord.shortest? chord.withoutTieEndings).map (·.ticks score resolution)).getD 0

end ScorePlayback
