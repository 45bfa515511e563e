import ScorePlayback.Midi.Rendering

/-! A score recorded: every item is played and rendered when it is visited, and the first fault ends
the route there. Main statement: a recording is the rendering of the whole script, although it does
not unfold more of the route than it needs. -/

namespace ScorePlayback

/-- What has been rendered so far, the latest first. -/
structure Recording where
  events : List Event := []
  remarks : List Remark := []

namespace Recording

def add (recording : Recording) (rendering : Rendering) : Recording where
  events := rendering.events.reverseAux recording.events
  remarks := rendering.remarks.reverseAux recording.remarks

/-- The recording in the order of time, and the fault that ended it. -/
def finish (recording : Recording) (fault : Option EventFault) : Rendering where
  events := recording.events.reverse
  remarks := recording.remarks.reverse
  fault

theorem finish_add (recording : Recording) (rendering : Rendering) :
    (recording.add rendering).finish rendering.fault = recording.finish none ++ rendering := by
  rw [Rendering.append_eq_of_none rfl]
  simp [finish, add, List.reverseAux_eq]

theorem finish_add_append {rendering : Rendering} (sound : rendering.fault = none)
    (recording : Recording) (rest : Rendering) :
    (recording.add rendering).finish none ++ rest =
      recording.finish none ++ (rendering ++ rest) := by
  have added := finish_add recording rendering
  rw [sound] at added
  rw [added, Rendering.append_assoc]

end Recording

namespace SoundEncoding

/-- Visits, plays and renders from the cursor on. The items are those of the score. -/
def recordFrom (encoding : SoundEncoding) (score : Score) (resolution : Int) (items : Array Item)
    (same : items.toList = score.items) (cursor : Cursor) (head : Playhead)
    (recording : Recording) : Rendering :=
  match _here : items[cursor.index]? with
  | none => recording.finish none
  | some item =>
    let (head, cues) := head.visit score resolution ⟨cursor.index, item, cursor.repeats⟩
    let rendering := encoding.render cues
    let recording := recording.add rendering
    if rendering.fault.isSome then recording.finish rendering.fault
    else encoding.recordFrom score resolution items same (cursor.next item) head recording
termination_by cursor.remaining score.items.length score.passLimit
decreasing_by
  have here : items[cursor.index]? = some item := by assumption
  rw [← Array.getElem?_toList, same] at here
  exact cursor.remaining_next_lt here (Score.passes_le_passLimit (List.mem_of_getElem? here))

theorem recordFrom_eq (encoding : SoundEncoding) (score : Score) (resolution : Int)
    (items : Array Item)
    (same : items.toList = score.items) (cursor : Cursor) (head : Playhead)
    (recording : Recording) :
    encoding.recordFrom score resolution items same cursor head recording =
      recording.finish none
        ++ encoding.render (head.cues score resolution (score.routeFrom cursor)) := by
  fun_induction recordFrom encoding score resolution items same cursor head recording with
  | case1 cursor head recording past =>
    rw [← Array.getElem?_toList, same] at past
    rw [Score.routeFrom_of_none past]
    exact (Rendering.append_empty _).symm
  | case2 cursor head recording item here after cues visited rendering recorded failed =>
    rw [← Array.getElem?_toList, same] at here
    rw [Score.routeFrom_of_some here, Playhead.cues, visited]
    simp only [render_append]
    obtain ⟨fault, failed⟩ := Option.isSome_iff_exists.mp failed
    rw [Rendering.append_eq_of_fault failed]
    exact Recording.finish_add recording rendering
  | case3 cursor head recording item here after cues visited rendering recorded sound ih =>
    rw [← Array.getElem?_toList, same] at here
    rw [ih, Score.routeFrom_of_some here, Playhead.cues, visited]
    simp only [render_append]
    have sound : rendering.fault = none := by simpa using sound
    exact Recording.finish_add_append sound recording _

/-- Everything that a score sounds like, from the program change on. -/
def record (encoding : SoundEncoding) (instrument : Instrument) (score : Score) (resolution : Int) :
    Rendering :=
  let program := encoding.renderProgram 0 instrument
  if program.fault.isSome then program
  else
    encoding.recordFrom score resolution score.items.toArray rfl .start {}
      (({} : Recording).add program)

theorem record_eq (encoding : SoundEncoding) (instrument : Instrument) (score : Score)
    (resolution : Int) :
    encoding.record instrument score resolution =
      encoding.renderProgram 0 instrument ++ encoding.render (score.script resolution) := by
  simp only [record]
  split
  next failed =>
    obtain ⟨fault, failed⟩ := Option.isSome_iff_exists.mp failed
    exact (Rendering.append_eq_of_fault failed _).symm
  next sound =>
    have sound : (encoding.renderProgram 0 instrument).fault = none := by simpa using sound
    rw [recordFrom_eq, Recording.finish_add_append sound]
    exact Rendering.empty_append _

end SoundEncoding

end ScorePlayback
