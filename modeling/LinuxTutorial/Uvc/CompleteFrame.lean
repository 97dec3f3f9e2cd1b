import LinuxTutorial.Uvc.Setup
import LinuxTutorial.Uvc.Yuyv

set_option autoImplicit false

namespace Uvc

open Interaction Device

def skipFrames (timeout : Timeval) : Nat → CameraM Unit
  | 0 => pure ()
  | count + 1 => do
    let _ ← cameraFrame timeout
    skipFrames timeout count

-- main up to its call yuyv2rgb(camera->head.start, camera->width, camera->height)
def mainCapture (width height : UInt32) : CameraM Camera := do
  prepare width height
  let timeout := { tvSec := 1, tvUsec := 0 }
  skipFrames timeout 5
  let _ ← cameraFrame timeout
  load

/-- How the head comes from the frames copied into it, the last of them last. -/
structure HeadHistory (head : HeadBuffer) (frames : List (List UInt8)) : Prop where
  last : ∀ frame, frames.getLast? = some frame →
    head.length = frame.length ∧ head.start.take frame.length = frame.map some
  copied : ∀ (index : Nat) (byte : UInt8), head.start[index]? = some (some byte) →
    ∃ frame, frame ∈ frames ∧ frame[index]? = some byte
  covered : ∀ frame, frame ∈ frames → ∀ index, index < frame.length →
    ∃ byte, head.start[index]? = some (some byte)
  small : ∀ frame, frame ∈ frames → frame.length < 2 ^ 32

theorem headHistory_empty {head : HeadBuffer} {capacity : Nat}
    (unwritten : head.start = List.replicate capacity none) : HeadHistory head [] where
  last := by simp
  copied := by simp [unwritten, List.getElem?_replicate]
  covered := by simp
  small := by simp

theorem headHistory_capture {camera : Camera} {frames : List (List UInt8)} {frame : List UInt8}
    (history : HeadHistory camera.head frames) (small : frame.length < 2 ^ 32) :
    HeadHistory (camera.capture frame).head (frames ++ [frame]) := by
  have inside (index : Nat) (before : index < frame.length) :
      (camera.capture frame).head.start[index]? = some (some frame[index]) := by
    simp [Camera.capture, Camera.setHead, List.getElem?_append, before]
  have outside (index : Nat) (after : ¬ index < frame.length) :
      (camera.capture frame).head.start[index]? = camera.head.start[index]? := by
    have position : frame.length + (index - frame.length) = index := by omega
    simp [Camera.capture, Camera.setHead, List.getElem?_append, after, position]
  constructor
  · intro last same
    simp only [List.getLast?_append, List.getLast?_singleton, Option.some_or,
      Option.some.injEq] at same
    subst same
    simp [Camera.capture, Camera.setHead]
  · intro index byte written
    by_cases before : index < frame.length
    · rw [inside index before] at written
      exists frame
      simp_all
    · rw [outside index before] at written
      obtain ⟨earlier, member, found⟩ := history.copied index byte written
      exact ⟨earlier, List.mem_append_left _ member, found⟩
  · intro earlier member index before
    by_cases rewritten : index < frame.length
    · exact ⟨_, inside index rewritten⟩
    · rw [outside index rewritten]
      rcases List.mem_append.mp member with member | member
      · exact history.covered earlier member index before
      · rw [List.mem_singleton.mp member] at before
        contradiction
  · intro earlier member
    rcases List.mem_append.mp member with member | member
    · exact history.small earlier member
    · rw [List.mem_singleton.mp member]
      exact small

structure Exposed (width height : UInt32) (start : List (List UInt8)) (world : World Device) :
    Prop where
  ring : Ring world
  width : world.camera.width = width
  height : world.camera.height = height
  history : ∃ frames, world.device.delivered = start ++ frames ∧
    HeadHistory world.camera.head frames

variable {width height : UInt32} {start : List (List UInt8)} {world : World Device}

theorem ready_exposed (ready : Ready width height start world) :
    Exposed width height start world := by
  obtain ⟨capacity, unwritten⟩ := ready.unwritten
  constructor
  · exact ready.ring
  · exact ready.width
  · exact ready.height
  · exists []
    simp [ready.delivered, headHistory_empty unwritten]

theorem exposed_stable (width height : UInt32) (start : List (List UInt8)) :
    Stable (Exposed width height start) := by
  intro world device exposed quiet
  obtain ⟨frames, delivered, history⟩ := exposed.history
  constructor
  · exact ring_keeps exposed.ring quiet.toKeeps
  · exact exposed.width
  · exact exposed.height
  · exact ⟨frames, quiet.delivered.trans delivered, history⟩

theorem captured_exposed {after : World Device} {result : Bool}
    (exposed : Exposed width height start world) (ring : Ring after)
    (captured : Captured world after result) : Exposed width height start after := by
  obtain ⟨frames, delivered, history⟩ := exposed.history
  cases captured with
  | nothing camera same queued =>
    constructor
    · exact ring
    · rw [camera, exposed.width]
    · rw [camera, exposed.height]
    · exists frames
      rw [camera, same]
      exact ⟨delivered, history⟩
  | frame _ index frame wasQueued fits small camera appended queued =>
    constructor
    · exact ring
    · rw [camera]
      exact exposed.width
    · rw [camera]
      exact exposed.height
    · exists frames ++ [frame]
      rw [camera, appended, delivered]
      exact ⟨List.append_assoc _ _ _, headHistory_capture history small⟩

theorem always_cameraFrame (timeout : Timeval) (exposed : Exposed width height start world) :
    Always v4l2Respond anyOp (fun _ => Exposed width height start) (cameraFrame timeout)
      world := by
  apply always_load trivial
  apply always_sys trivial
  intro answer device quiet
  have exposed := exposed_stable _ _ _ world device exposed quiet
  cases answer with
  | fail errno => exact always_quit trivial
  | timeout => exact exposed
  | ready =>
    apply (always_capture exposed.ring).weaken
    · intro op last safe
      trivial
    · intro result last after
      exact captured_exposed exposed after.1 after.2

theorem always_skipFrames (timeout : Timeval) (count : Nat)
    (exposed : Exposed width height start world) :
    Always v4l2Respond anyOp (fun _ => Exposed width height start) (skipFrames timeout count)
      world := by
  induction count generalizing world with
  | zero => exact exposed
  | succ count ih =>
    apply always_bind (always_cameraFrame timeout exposed)
    intro result last exposed
    exact ih exposed

theorem always_mainCapture (width height : UInt32) (world : World Device) :
    Always v4l2Respond anyOp
      (fun camera after => camera = after.camera ∧
        Exposed width height world.device.delivered after)
      (mainCapture width height) world := by
  apply always_bind (always_prepare width height world)
  intro _ last ready
  apply always_bind (always_skipFrames _ 5 (ready_exposed ready))
  intro _ last exposed
  apply always_bind (always_cameraFrame _ exposed)
  intro _ last exposed
  exact always_load trivial ⟨rfl, exposed⟩

/-- The conversion gets a whole captured frame, and reads nothing but captured bytes. -/
structure CompleteFrame (camera : Camera) (frames : List (List UInt8)) : Prop where
  frame : ∃ frame, frames.getLast? = some frame ∧ camera.head.length = frame.length ∧
    camera.head.start.take camera.head.length = frame.map some
  enough : 2 * camera.width.toNat * camera.height.toNat ≤ camera.head.length
  reads : ∀ read, read ∈ yuyvReads camera.width camera.height →
    ∃ frame byte, frame ∈ frames ∧ frame[read]? = some byte ∧
      camera.head.start[read]? = some (some byte)

structure Sufficient (width height : UInt32) (frames : List (List UInt8)) : Prop where
  last : ∃ frame, frames.getLast? = some frame ∧
    2 * width.toNat * height.toNat ≤ frame.length
  extent : ∃ frame, frame ∈ frames ∧ yuyvExtent width height ≤ frame.length

theorem completeFrame_iff {camera : Camera} {frames : List (List UInt8)}
    (history : HeadHistory camera.head frames) :
    CompleteFrame camera frames ↔ Sufficient camera.width camera.height frames := by
  constructor
  · intro complete
    obtain ⟨frame, last, length, bytes⟩ := complete.frame
    have member := List.mem_of_getLast? last
    have enough := complete.enough
    have small := history.small frame member
    constructor
    · exact ⟨frame, last, length ▸ enough⟩
    · by_cases odd : camera.width.toNat % 2 = 1 ∧ 0 < camera.height.toNat
      · have furthest := last_mem_yuyvReads (by omega) odd.1 odd.2
        obtain ⟨longest, byte, member, found, _⟩ := complete.reads _ furthest
        have inside := (List.getElem?_eq_some_iff.mp found).1
        refine ⟨longest, member, ?_⟩
        simp only [yuyvExtent, odd, and_self, if_true]
        omega
      · refine ⟨frame, member, ?_⟩
        simp only [yuyvExtent, odd, if_false]
        omega
  · intro sufficient
    obtain ⟨frame, last, enough⟩ := sufficient.last
    obtain ⟨longest, longestMember, extent⟩ := sufficient.extent
    obtain ⟨length, bytes⟩ := history.last frame last
    have small := history.small frame (List.mem_of_getLast? last)
    constructor
    · exact ⟨frame, last, length, length ▸ bytes⟩
    · exact length ▸ enough
    · intro read member
      have before := yuyvReads_lt (by omega) member
      obtain ⟨byte, written⟩ := history.covered longest longestMember read (by omega)
      obtain ⟨source, sourceMember, found⟩ := history.copied read byte written
      exact ⟨source, byte, sourceMember, found, written⟩

-- The frames that DQBUF handed out in a run, by the histories at its ends.
def framesBetween (before after : World Device) : List (List UInt8) :=
  after.device.delivered.drop before.device.delivered.length

theorem captured_history {width height : UInt32} {fresh last : World Device} {camera : Camera}
    (reached : Returns v4l2Respond (mainCapture width height) fresh camera last) :
    camera.width = width ∧ camera.height = height ∧
      HeadHistory camera.head (framesBetween fresh last) := by
  obtain ⟨rfl, exposed⟩ := (always_mainCapture width height fresh).returns reached
  obtain ⟨frames, delivered, history⟩ := exposed.history
  have between : framesBetween fresh last = frames := by
    simp [framesBetween, delivered]
  exact ⟨exposed.width, exposed.height, between ▸ history⟩

theorem conversion_gets_complete_frame_iff (width height : UInt32) (fresh last : World Device)
    (camera : Camera) (reached : Returns v4l2Respond (mainCapture width height) fresh camera last) :
    CompleteFrame camera (framesBetween fresh last) ↔
      Sufficient width height (framesBetween fresh last) := by
  obtain ⟨rfl, rfl, history⟩ := captured_history reached
  exact completeFrame_iff history

theorem conversion_gets_complete_frame_iff_webcam :
    ∃ camera last, Returns v4l2Respond (mainCapture 2 1) Webcam.unopened camera last ∧
      CompleteFrame camera (framesBetween Webcam.unopened last) := by
  have reached := @Webcam.returns _ (mainCapture 2 1) _ _ _ .ready Webcam.unopened_sized rfl
  refine ⟨_, _, reached, ?_⟩
  apply (conversion_gets_complete_frame_iff 2 1 _ _ _ reached).mpr
  constructor
  · exact ⟨Webcam.still, rfl, by decide⟩
  · exact ⟨Webcam.still, .head _, by decide⟩

-- With six timeouts main converts a head that nothing was ever copied into.
theorem conversion_without_frame :
    ¬ ∀ fresh last camera, Returns v4l2Respond (mainCapture 352 288) fresh camera last →
      CompleteFrame camera (framesBetween fresh last) := by
  intro complete
  have reached := complete Webcam.unopened _ _
    (Webcam.returns .timeout Webcam.unopened_sized rfl)
  obtain ⟨frame, last, _⟩ := reached.frame
  cases last

end Uvc
