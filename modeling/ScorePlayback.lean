import ScorePlayback.Main
import ScorePlayback.Midi.MessageFields
import ScorePlayback.Proofs.Walk
import ScorePlayback.Proofs.Section
import ScorePlayback.Proofs.Passes
import ScorePlayback.Proofs.RouteLength
import ScorePlayback.Proofs.PassStructure
import ScorePlayback.Proofs.Heard
import ScorePlayback.Proofs.WrittenOut
import ScorePlayback.Proofs.NoteNumbers
import ScorePlayback.Proofs.Timeline
import ScorePlayback.Proofs.PassStart
import ScorePlayback.Proofs.StatedTempo
import ScorePlayback.Proofs.Pairing
import ScorePlayback.Proofs.Reading
import ScorePlayback.Proofs.FileTracks
import ScorePlayback.Proofs.Spans
import ScorePlayback.Proofs.RoundTrip
import ScorePlayback.Proofs.Replay
import ScorePlayback.Proofs.Hanging
import ScorePlayback.Proofs.Measures
import ScorePlayback.Proofs.SeparateMarks
import ScorePlayback.Proofs.UnclosedVoltas
import ScorePlayback.Proofs.ClosedVoltas
import ScorePlayback.Proofs.Skipping
import ScorePlayback.Proofs.Releases
import ScorePlayback.Proofs.DeclaredErrors
import ScorePlayback.Proofs.TieMarks
import ScorePlayback.Proofs.NoteReading
import ScorePlayback.Proofs.TieReading
import ScorePlayback.Proofs.TieLinks
import ScorePlayback.Proofs.TiedTime
import ScorePlayback.Proofs.Writable
import ScorePlayback.Proofs.StartsAndStops
import ScorePlayback.Proofs.Refusals
import ScorePlayback.Proofs.LoadOutcomes
import ScorePlayback.Proofs.Retiming
import ScorePlayback.Proofs.Joined
import ScorePlayback.Proofs.Doubling
import ScorePlayback.Proofs.Octaves
import ScorePlayback.Proofs.DurationTexts
import ScorePlayback.Proofs.InstrumentLookup
import ScorePlayback.Proofs.NotesHeard
import ScorePlayback.Proofs.ChordOrder
import ScorePlayback.Proofs.KeyFifths
import ScorePlayback.Proofs.KeyNames
import ScorePlayback.Proofs.ActiveRepeat
