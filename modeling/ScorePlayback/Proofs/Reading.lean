import Mathlib.Tactic.Linarith
import ScorePlayback.Midi.File

/-! A reader of the files that are written: a header, two tracks, and in each of them events with
the ticks since the one before. A reader takes a value off the front of its bytes, and what is
written is read back as what it was written for. -/

namespace ScorePlayback

abbrev Reader (α : Type) := StateT (List UInt8) Option α

namespace Reader
variable {α β : Type}

/-- Bytes from which a value is read, whatever comes after them. -/
def Reads (reader : Reader α) (bytes : List UInt8) (value : α) : Prop :=
  ∀ rest, reader (bytes ++ rest) = some (value, rest)

/-- The value of bytes that are read to their end. -/
def whole (reader : Reader α) (bytes : List UInt8) : Option α :=
  match reader bytes with
  | some (value, []) => some value
  | _ => none

def byte : Reader UInt8
  | [] => none
  | byte :: rest => some (byte, rest)

def take (count : Nat) : Reader (List UInt8) := fun bytes =>
  if count ≤ bytes.length then some (bytes.take count, bytes.drop count) else none

def ofOption : Option α → Reader α
  | some value => pure value
  | none => failure

def numberOf (bytes : List UInt8) : Nat :=
  bytes.foldl (fun number byte => number * 256 + byte.toNat) 0

def number (width : Nat) : Reader Nat := do
  return numberOf (← take width)

/-- The first byte without the top bit is the last one of a quantity. -/
def quantityFrom (value : Nat) : Reader Nat
  | [] => none
  | byte :: rest =>
    if byte.toNat < 128 then some (value * 128 + byte.toNat, rest)
    else quantityFrom (value * 128 + byte.toNat % 128) rest

def quantity : Reader Nat := quantityFrom 0

def dataByte : Reader DataByte := do
  let byte ← byte
  if small : byte.toNat < 128 then return ⟨byte.toNat, small⟩ else failure

def chunk (tag : String) : Reader (List UInt8) := do
  let found ← take tag.toUTF8.toList.length
  let length ← number 4
  let body ← take length
  if found = tag.toUTF8.toList then return body else failure

end Reader

inductive FileEvent
  | message (message : Message)
  | trackName (name : List UInt8)
  | endOfTrack
deriving DecidableEq, Repr

namespace FileEvent

def message? : FileEvent → Option Message
  | message sent => some sent
  | _ => none

def ofMeta? (kind : UInt8) (content : List UInt8) : Option FileEvent :=
  match kind with
  | 0x03 => some (.trackName content)
  | 0x2f => if content = [] then some .endOfTrack else none
  | 0x51 =>
    if content.length = 3 then some (.message (.setTempo (Fin.ofNat _ (Reader.numberOf content))))
    else none
  | _ => none

def channelMessage (command : Nat) (channel : Channel) : Reader Message :=
  match command with
  | 0x8 => return .noteOff channel (← Reader.dataByte) (← Reader.dataByte)
  | 0x9 => return .noteOn channel (← Reader.dataByte) (← Reader.dataByte)
  | 0xb => return .controlChange channel (← Reader.dataByte) (← Reader.dataByte)
  | 0xc => return .programChange channel (← Reader.dataByte)
  | _ => failure

/-- The upper half of a status says what a message is, the lower half which channel it is for. -/
def reader : Reader FileEvent := do
  let status ← Reader.byte
  if status = 0xff then
    let kind ← Reader.byte
    let content ← Reader.take (← Reader.quantity)
    Reader.ofOption (ofMeta? kind content)
  else
    return .message (← channelMessage (status.toNat / 16) (Fin.ofNat 16 status.toNat))

end FileEvent

structure FileMoment where
  tick : Int
  event : FileEvent
deriving DecidableEq, Repr

/-- A track of a file: events, each with the ticks since the one before it. -/
structure FileTrack where
  events : List (Nat × FileEvent)
deriving DecidableEq, Repr

namespace FileTrack

/-- The events up to the end of the track, which comes last. `limit` bounds their number. -/
def eventsReader : Nat → Reader (List (Nat × FileEvent))
  | 0 => failure
  | limit + 1 => do
    let delta ← Reader.quantity
    let event ← FileEvent.reader
    if event = .endOfTrack then return [(delta, event)]
    else return (delta, event) :: (← eventsReader limit)

def reader : Reader FileTrack := do
  let body ← Reader.chunk "MTrk"
  return ⟨← Reader.ofOption ((eventsReader body.length).whole body)⟩

def momentsFrom (now : Int) : List (Nat × FileEvent) → List FileMoment
  | [] => []
  | (delta, event) :: rest => ⟨now + delta, event⟩ :: momentsFrom (now + delta) rest

def moments (track : FileTrack) : List FileMoment := momentsFrom 0 track.events

/-- How long a track takes, its end included. -/
def length (track : FileTrack) : Nat := (track.events.map Prod.fst).sum

end FileTrack

/-- What a file holds: the ticks of a quarter note, the track of the tempi and that of the notes. -/
structure Content where
  resolution : Nat
  conductor : FileTrack
  music : FileTrack
deriving DecidableEq, Repr

namespace Content

/-- Two tracks that are played together have the format 1. -/
def fieldsReader : Reader Nat := do
  let format ← Reader.number 2
  let tracks ← Reader.number 2
  let resolution ← Reader.number 2
  if format = 1 ∧ tracks = 2 then return resolution else failure

def headerReader : Reader Nat := do
  Reader.ofOption (fieldsReader.whole (← Reader.chunk "MThd"))

def reader : Reader Content := do
  return {
    resolution := ← headerReader
    conductor := ← FileTrack.reader
    music := ← FileTrack.reader }

def read? (file : List UInt8) : Option Content := reader.whole file

end Content

namespace Reader
variable {α β : Type}

theorem Reads.bind {reader : Reader α} {next : α → Reader β} {before after : List UInt8}
    {value : α} {result : β} (first : reader.Reads before value)
    (second : (next value).Reads after result) :
    (reader >>= next).Reads (before ++ after) result := by
  intro rest
  have taken := congrArg (Option.bind · fun (found : α × List UInt8) => next found.1 found.2)
    (first (after ++ rest))
  rw [List.append_assoc]
  exact taken.trans (second rest)

theorem reads_pure (value : α) : (pure value : Reader α).Reads [] value := fun _ => rfl

theorem Reads.returns {reader : Reader α} {next : α → Reader β} {bytes : List UInt8} {value : α}
    {result : β} (first : reader.Reads bytes value) (rest : (next value).Reads [] result) :
    (reader >>= next).Reads bytes result := by
  have both := first.bind rest
  rwa [List.append_nil] at both

theorem Reads.whole {reader : Reader α} {bytes : List UInt8} {value : α}
    (reads : reader.Reads bytes value) : reader.whole bytes = some value := by
  have all := reads []
  rw [List.append_nil] at all
  rw [Reader.whole, all]

theorem reads_byte (byte : UInt8) : Reader.byte.Reads [byte] byte := fun _ => rfl

theorem reads_take (bytes : List UInt8) : (take bytes.length).Reads bytes bytes := by
  intro rest
  rw [take, List.length_append, if_pos (Nat.le_add_right _ _), List.take_left, List.drop_left]

private theorem numberOf_append (bytes : List UInt8) (last : UInt8) :
    numberOf (bytes ++ [last]) = numberOf bytes * 256 + last.toNat := by
  rw [numberOf, List.foldl_append]
  rfl

theorem length_bigEndian (width number : Nat) :
    (MidiFile.bigEndian width number).length = width := by
  induction width generalizing number with
  | zero => rfl
  | succ width ih => rw [MidiFile.bigEndian, List.length_append, ih, List.length_singleton]

private theorem numberOf_bigEndian {width number : Nat} (fits : number < 256 ^ width) :
    numberOf (MidiFile.bigEndian width number) = number := by
  induction width generalizing number with
  | zero =>
    rw [Nat.pow_zero] at fits
    rw [Nat.lt_one_iff.mp fits]
    rfl
  | succ width ih =>
    have above : number / 256 < 256 ^ width :=
      (Nat.div_lt_iff_lt_mul (by decide)).mpr fits
    have last : (number % 256).toUInt8.toNat = number % 256 :=
      Nat.mod_eq_of_lt (Nat.mod_lt number (by decide))
    rw [MidiFile.bigEndian, numberOf_append, ih above, last, Nat.div_add_mod']

theorem reads_number {width number : Nat} (fits : number < 256 ^ width) :
    (Reader.number width).Reads (MidiFile.bigEndian width number) number := by
  have taken := reads_take (MidiFile.bigEndian width number)
  rw [length_bigEndian] at taken
  refine taken.returns fun rest => ?_
  rw [numberOf_bigEndian fits]
  rfl

private theorem quantityFrom_highGroups {fuel value : Nat} (enough : value ≤ fuel)
    (rest : List UInt8) :
    quantityFrom 0 (Quantity.highGroups fuel value ++ rest) = quantityFrom value rest := by
  -- The highest group is written and read first, so what is read before the last group is all of
  -- the value above it.
  induction fuel generalizing value rest with
  | zero =>
    rw [Nat.le_zero.mp enough]
    rfl
  | succ fuel ih =>
    unfold Quantity.highGroups
    split
    next zero => rw [zero, List.nil_append]
    next more =>
      have group : (128 + value % 128).toUInt8.toNat = 128 + value % 128 :=
        Nat.mod_eq_of_lt (by omega)
      have together : value / 128 * 128 + (128 + value % 128) % 128 = value := by omega
      rw [List.append_assoc, ih (by omega), List.singleton_append, quantityFrom, group,
        if_neg (by omega), together]

theorem reads_quantity (value : Nat) : quantity.Reads (Quantity.ofNat value) value := by
  intro rest
  have group : (value % 128).toUInt8.toNat = value % 128 := Nat.mod_eq_of_lt (by omega)
  rw [quantity, Quantity.ofNat, List.append_assoc,
    quantityFrom_highGroups (Nat.div_le_self value 128), List.singleton_append, quantityFrom, group,
    if_pos (Nat.mod_lt value (by decide)), Nat.div_add_mod']

theorem reads_dataByte (value : DataByte) : dataByte.Reads [MidiFile.dataByte value] value := by
  have same : (MidiFile.dataByte value).toNat = value.val := Nat.mod_eq_of_lt (by omega)
  refine (reads_byte _).returns fun rest => ?_
  simp only [same, value.isLt, dite_true]
  rfl

theorem reads_chunk (tag : String) {body : List UInt8} (fits : body.length < 0x100000000) :
    (chunk tag).Reads (MidiFile.chunk tag body) body := by
  rw [MidiFile.chunk, List.append_assoc]
  refine (reads_take tag.toUTF8.toList).bind ((reads_number fits).bind ?_)
  refine (reads_take body).returns ?_
  rw [if_pos rfl]
  exact reads_pure body

theorem reads_ofOption {option : Option α} {value : α} (found : option = some value) :
    (ofOption option).Reads [] value := by
  rw [found]
  exact reads_pure value

end Reader

namespace FileEvent

private theorem toNat_status (command : UInt8) (bare : command.toNat % 16 = 0) (channel : Channel) :
    (MidiFile.status command channel).toNat = command.toNat + channel.val := by
  have number : channel.val.toUInt8.toNat = channel.val := Nat.mod_eq_of_lt (by omega)
  have bounded := command.toNat_lt
  rw [MidiFile.status, UInt8.toNat_add, number]
  omega

/-- A message with a command below those of the system is read for its channel. -/
theorem reads_message (command : UInt8) (bare : command.toNat % 16 = 0)
    (low : command.toNat < 0xf0) (channel : Channel) {bytes : List UInt8} {sent : Message}
    (reads : (channelMessage (command.toNat / 16) channel).Reads bytes sent) :
    reader.Reads (MidiFile.status command channel :: bytes) (.message sent) := by
  have value := toNat_status command bare channel
  have ordinary : MidiFile.status command channel ≠ 0xff := by
    intro system
    have top : (0xff : UInt8).toNat = 255 := rfl
    rw [system, top] at value
    omega
  have upper : (MidiFile.status command channel).toNat / 16 = command.toNat / 16 := by omega
  have lower : Fin.ofNat 16 (MidiFile.status command channel).toNat = channel := by
    refine Fin.ext ?_
    rw [Fin.val_ofNat]
    omega
  refine (Reader.reads_byte _).bind ?_
  rw [if_neg ordinary, upper, lower]
  exact reads.returns (Reader.reads_pure _)

theorem reads_noteOn (channel : Channel) (note velocity : DataByte) :
    reader.Reads [MidiFile.status 0x90 channel, MidiFile.dataByte note, MidiFile.dataByte velocity]
      (.message (.noteOn channel note velocity)) :=
  reads_message 0x90 rfl (by decide) channel ((Reader.reads_dataByte note).bind
    ((Reader.reads_dataByte velocity).returns (Reader.reads_pure _)))

theorem reads_noteOff (channel : Channel) (note velocity : DataByte) :
    reader.Reads [MidiFile.status 0x80 channel, MidiFile.dataByte note, MidiFile.dataByte velocity]
      (.message (.noteOff channel note velocity)) :=
  reads_message 0x80 rfl (by decide) channel ((Reader.reads_dataByte note).bind
    ((Reader.reads_dataByte velocity).returns (Reader.reads_pure _)))

theorem reads_programChange (channel : Channel) (program : DataByte) :
    reader.Reads [MidiFile.status 0xc0 channel, MidiFile.dataByte program]
      (.message (.programChange channel program)) :=
  reads_message 0xc0 rfl (by decide) channel
    ((Reader.reads_dataByte program).returns (Reader.reads_pure _))

theorem reads_meta (kind : UInt8) (content : List UInt8) {event : FileEvent}
    (known : ofMeta? kind content = some event) :
    reader.Reads ([0xff, kind] ++ Quantity.ofNat content.length ++ content) event := by
  refine (Reader.reads_byte 0xff).bind ?_
  rw [if_pos rfl]
  refine (Reader.reads_byte kind).bind ((Reader.reads_quantity content.length).bind ?_)
  exact (Reader.reads_take content).returns (Reader.reads_ofOption known)

theorem reads_trackName (name : List UInt8) :
    reader.Reads ([0xff, 0x03] ++ Quantity.ofNat name.length ++ name) (.trackName name) :=
  reads_meta 0x03 name rfl

theorem reads_endOfTrack : reader.Reads [0xff, 0x2f, 0x00] .endOfTrack :=
  reads_meta 0x2f [] rfl

theorem reads_setTempo (microseconds : Nat) :
    reader.Reads ([0xff, 0x51, 0x03] ++ MidiFile.bigEndian 3 microseconds)
      (.message (.setTempo
        (Fin.ofNat _ (Reader.numberOf (MidiFile.bigEndian 3 microseconds))))) := by
  have three := Reader.length_bigEndian 3 microseconds
  have reads := reads_meta 0x51 (MidiFile.bigEndian 3 microseconds) (if_pos (e := none) three)
  rw [three] at reads
  exact reads

end FileEvent

end ScorePlayback
