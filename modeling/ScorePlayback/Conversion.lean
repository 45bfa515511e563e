import ScorePlayback.Midi.Recording

/-! Converting a score into a track: the instrument is loaded, its program change is placed at the
start, and the score is recorded after it. A track is returned whole or not at all. -/

namespace ScorePlayback

/-- How to convert. Without an instrument the first one of the bank plays. -/
structure Converter (ε : Type := Encoding) where
  encoding : ε
  instrument : Option Instrument := none
  bank : Bank := .generalMidi
  resolution : Int := defaultResolution

/-- The first instrument of General MIDI plays, with the usual settings. -/
def Converter.usual : Converter where
  encoding := {}

inductive ConversionError
  | instrumentUnavailable (fault : InstrumentFault)
  | programNotNumber (program : Value)
  | limit (limit : Limit)
  | invalidEvent (fault : EventFault)
  | arithmetic (fault : ArithmeticFault)
deriving Repr

namespace ConversionError

def message : ConversionError → String
  | instrumentUnavailable fault => fault.message
  | programNotNumber program => notNumberMessage program
  | limit exceeded => exceeded.message
  | invalidEvent fault => s!"Could not build MIDI event: {fault.text}"
  | arithmetic fault => fault.message

def ofLoading : LoadingFault → ConversionError
  | .unavailable fault => .instrumentUnavailable fault
  | .notNumber program => .programNotNumber program
  | .limit exceeded => .limit exceeded

/-- A fault of a message, and a tempo that is no number, make the event invalid. A tempo outside
the range of the arithmetic is an error of its own. -/
def ofFault : EventFault → ConversionError
  | .message fault => .invalidEvent (.message fault)
  | .arithmetic .wholeOfNaN => .invalidEvent (.arithmetic .wholeOfNaN)
  | .arithmetic fault => .arithmetic fault

end ConversionError

/-- The track or the error, the events handed on to a further receiver, and what there is to log:
about the loaded instrument, on the way, and at the end. -/
structure Conversion where
  result : Except ConversionError Track
  delivered : List Event := []
  loaded : List Log.Record := []
  remarks : List Remark := []
  closing : List Log.Record := []

def remarkRecord (remark : Remark) : Log.Record :=
  { severity := .debug, source := .playback, text := remark.text }

/-- What is logged of a conversion at a severity. Remarks are logged for debugging alone. -/
def Conversion.log (conversion : Conversion) (severity : Log.Severity) : List Log.Record :=
  Log.atLeast severity conversion.loaded
    ++ (if severity = .debug then conversion.remarks.map remarkRecord else [])
    ++ Log.atLeast severity conversion.closing

namespace Converter
variable {ε : Type}

def loadInstrument (converter : Converter ε) :
    Except ConversionError (Instrument × List Log.Record) := do
  let first := converter.bank.default?.mapError .instrumentUnavailable
  let instrument ← converter.instrument.elim first .ok
  (converter.bank.load instrument).mapError .ofLoading

/-- The messages that the converter has for sounds. -/
def sounds [Encodes ε] (converter : Converter ε) : SoundEncoding :=
  Encodes.sounds converter.encoding

/-- Everything that the score sounds like, from the program change on. -/
def rendering [Encodes ε] (converter : Converter ε) (instrument : Instrument) (score : Score) :
    Rendering :=
  converter.sounds.record instrument score converter.resolution

theorem rendering_eq [Encodes ε] (converter : Converter ε) (instrument : Instrument)
    (score : Score) :
    converter.rendering instrument score = converter.sounds.renderProgram 0 instrument
      ++ converter.sounds.render (score.script converter.resolution) :=
  converter.sounds.record_eq instrument score converter.resolution

def abortRecords : ConversionError → List Log.Record
  | .invalidEvent fault => [{
      severity := .error, source := .playback, text := s!"Conversion aborted: {fault.text}" }]
  | _ => []

def doneRecord (score : Score) (track : Track) (instrument : Instrument) : Log.Record where
  severity := .info
  source := .playback
  text := s!"Converted {score.items.length} score items into {track.events.length} events " ++
    s!"({track.ticks} ticks, instrument " ++ instrument.name ++ ")"

def convert [Encodes ε] (converter : Converter ε) (score : Score) : Conversion :=
  match converter.loadInstrument with
  | .error error => { result := .error error }
  | .ok (instrument, loaded) =>
    let rendering := converter.rendering instrument score
    let remarks := rendering.remarks
    match rendering.fault with
    | some fault =>
      let error := ConversionError.ofFault fault
      { result := .error error, loaded, remarks, closing := abortRecords error }
    | none =>
      let track : Track := { resolution := converter.resolution, events := rendering.events }
      { result := .ok track, delivered := track.events, loaded, remarks,
        closing := [doneRecord score track instrument] }

end Converter

end ScorePlayback
