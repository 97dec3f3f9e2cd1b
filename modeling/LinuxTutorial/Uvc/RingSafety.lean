import LinuxTutorial.Uvc.Setup

set_option autoImplicit false

namespace Uvc

open Interaction Device

def captures : Nat → CameraM Unit
  | 0 => pure ()
  | count + 1 => do
    let _ ← cameraCapture
    captures count

theorem always_captures (count : Nat) {world : World Device} (ring : Ring world) :
    Always v4l2Respond MemorySafe (fun _ => Ring) (captures count) world := by
  induction count generalizing world with
  | zero => exact ring
  | succ count ih =>
    apply always_bind (always_capture ring)
    intro result last after
    exact ih after.1

-- A frame has been dequeued into the head, or nothing has and the head is as it was.
def HeadHoldsFrame (before after : World Device) : Prop :=
  (after.device.delivered = before.device.delivered ∧ after.camera = before.camera) ∨
    ∃ frame, after.device.delivered = before.device.delivered ++ [frame] ∧
      after.camera.head.length = frame.length ∧
      after.camera.head.start.take after.camera.head.length = frame.map some

theorem captured_head {before after : World Device} {result : Bool}
    (captured : Captured before after result) : HeadHoldsFrame before after := by
  cases captured with
  | nothing camera delivered queued => exact .inl ⟨delivered, camera⟩
  | frame _ index frame wasQueued fits small camera delivered queued =>
    apply Or.inr
    exists frame
    rw [camera]
    simp [delivered, Camera.capture, Camera.setHead]

theorem capture_ring_memory_safe (width height : UInt32) (fresh ready : World Device)
    (prepared : Returns v4l2Respond (prepare width height) fresh () ready) (count : Nat) :
    (∀ rest last, Reach v4l2Respond (captures count) ready rest last →
      HeadInBounds last.camera ∧
        ∀ index length next, rest = .ask (.memcpy index length) next →
          CopyInBounds last.camera index length) ∧
      ∀ last result after, Returns v4l2Respond (captures count) ready () last →
        Returns v4l2Respond cameraCapture last result after → HeadHoldsFrame last after := by
  have ring : Ring ready := ((always_prepare width height fresh).returns prepared).ring
  have safe := always_captures count ring
  constructor
  · intro rest last reached
    cases rest with
    | done value =>
      have ring : Ring last := safe.returns reached
      exact ⟨ring_headInBounds ring, nofun⟩
    | ask op next =>
      obtain ⟨head, copies⟩ := safe.before reached
      refine ⟨head, ?_⟩
      intro index length next same
      cases same
      exact copies index length rfl
  · intro last result after reached captured
    have ring : Ring last := safe.returns reached
    exact captured_head ((always_capture ring).returns captured).2

theorem capture_ring_memory_safe_webcam :
    ∃ ready last after, Returns v4l2Respond (prepare 2 1) Webcam.unopened () ready ∧
      Returns v4l2Respond (captures 2) ready () last ∧
      Returns v4l2Respond cameraCapture last true after ∧
      HeadInBounds last.camera ∧ HeadHoldsFrame last after := by
  have sized : ∀ index, index < 1 → Webcam.still.length = (4 : UInt32).toNat := fun _ _ => rfl
  refine ⟨_, _, _, Webcam.returns .ready Webcam.unopened_sized rfl, Webcam.returns .ready sized rfl,
    Webcam.returns .ready sized rfl, ?_⟩
  have safe := capture_ring_memory_safe 2 1 _ _ (Webcam.returns .ready Webcam.unopened_sized rfl) 2
  constructor
  · exact (safe.1 _ _ (Webcam.returns .ready sized rfl)).1
  · exact safe.2 _ _ _ (Webcam.returns .ready sized rfl) (Webcam.returns .ready sized rfl)

end Uvc
