import LinuxTutorial.Uvc.Rules
import Mathlib.Algebra.Group.Nat.Defs

set_option autoImplicit false

namespace Uvc

open Interaction Device

def ringBuffer (device : Device) (index : Nat) : RingBuffer :=
  { start := some ⟨device.offset index, device.length index⟩
    length := (device.length index).toNat }

structure Ring (world : World Device) : Prop where
  count : world.camera.bufferCount = world.device.granted
  mapped : ∀ index, index < world.device.granted →
    world.camera.buffers[index]? = some (ringBuffer world.device index)
  capacity : ∀ index, index < world.device.granted →
    (world.device.length index).toNat ≤ world.camera.head.start.length
  head : world.camera.head.length ≤ world.camera.head.start.length
  sizes : ∀ index, index < world.device.granted →
    (world.device.frame index).length = (world.device.length index).toNat

theorem ring_keeps {world : World Device} {device : Device} {writable : Finset Nat}
    (ring : Ring world) (keeps : Keeps world.device device writable) :
    Ring { world with device := device } where
  count := ring.count.trans keeps.granted.symm
  mapped index valid := by
    have valid' : index < world.device.granted := keeps.granted ▸ valid
    simp only [ring.mapped index valid', ringBuffer, keeps.offset, keeps.length]
  capacity index valid := by
    have valid' : index < world.device.granted := keeps.granted ▸ valid
    simpa only [keeps.length] using ring.capacity index valid'
  head := ring.head
  sizes index valid := by
    have valid' : index < world.device.granted := keeps.granted ▸ valid
    simpa only [keeps.length] using keeps.sizes index valid'

theorem ring_camera {world : World Device} {camera : Camera} (ring : Ring world)
    (count : camera.bufferCount = world.camera.bufferCount)
    (buffers : camera.buffers = world.camera.buffers)
    (size : camera.head.start.length = world.camera.head.start.length)
    (head : camera.head.length ≤ camera.head.start.length) :
    Ring { world with camera := camera } where
  count := count.trans ring.count
  mapped index valid := buffers ▸ ring.mapped index valid
  capacity index valid := by simpa only [size] using ring.capacity index valid
  head := head
  sizes := ring.sizes

def Camera.setHead (camera : Camera) (frame : List UInt8) : Camera :=
  { camera with head :=
      { camera.head with start := frame.map some ++ camera.head.start.drop frame.length } }

def Camera.capture (camera : Camera) (frame : List UInt8) : Camera :=
  { camera.setHead frame with
    head := { (camera.setHead frame).head with length := frame.length } }

theorem setHead_size {camera : Camera} {frame : List UInt8}
    (fits : frame.length ≤ camera.head.start.length) :
    (camera.setHead frame).head.start.length = camera.head.start.length := by
  simp only [Camera.setHead, List.length_append, List.length_map, List.length_drop]
  omega

theorem ring_memcpy {world : World Device} {index bytesused : Nat} (ring : Ring world)
    (valid : index < world.device.granted)
    (bound : bytesused ≤ (world.device.length index).toNat) :
    world.camera.memcpy world.device.contents index bytesused =
      some (world.camera.setHead ((world.device.frame index).take bytesused)) := by
  have fits : bytesused ≤ world.camera.head.start.length :=
    le_trans bound (ring.capacity index valid)
  have size : ((world.device.frame index).take bytesused).length = bytesused := by
    rw [List.length_take, ring.sizes index valid]
    omega
  simp only [Camera.memcpy, ring.mapped index valid, ringBuffer, bound, fits, and_self, if_true,
    Camera.setHead, size]
  rfl

-- memcpy(camera->head.start, camera->buffers[index].start, length) stays inside both.
def CopyInBounds (camera : Camera) (index length : Nat) : Prop :=
  ∃ buffer mapping, camera.buffers[index]? = some buffer ∧ buffer.start = some mapping ∧
    length ≤ mapping.length.toNat ∧ length ≤ camera.head.start.length

structure HeadInBounds (camera : Camera) : Prop where
  head : camera.head.length ≤ camera.head.start.length
  buffers : ∀ index, index < camera.bufferCount →
    ∃ buffer, camera.buffers[index]? = some buffer ∧ buffer.length ≤ camera.head.start.length

def MemorySafe (op : Op) (world : World Device) : Prop :=
  HeadInBounds world.camera ∧
    ∀ index length, op = .memcpy index length → CopyInBounds world.camera index length

theorem ring_headInBounds {world : World Device} (ring : Ring world) :
    HeadInBounds world.camera where
  head := ring.head
  buffers index valid := by
    have granted : index < world.device.granted := ring.count ▸ valid
    exact ⟨_, ring.mapped index granted, ring.capacity index granted⟩

theorem ring_copyInBounds {world : World Device} {index bytesused : Nat} (ring : Ring world)
    (valid : index < world.device.granted)
    (bound : bytesused ≤ (world.device.length index).toNat) :
    CopyInBounds world.camera index bytesused :=
  ⟨_, _, ring.mapped index valid, rfl, bound, le_trans bound (ring.capacity index valid)⟩

theorem ring_safe {world : World Device} {op : Op} (ring : Ring world)
    (other : ∀ index length, op ≠ .memcpy index length) : MemorySafe op world :=
  ⟨ring_headInBounds ring, fun index length same => absurd same (other index length)⟩

inductive Captured (before after : World Device) : Bool → Prop
  | nothing (camera : after.camera = before.camera)
      (delivered : after.device.delivered = before.device.delivered)
      (queued : after.device.queued = before.device.queued) : Captured before after false
  | frame (result : Bool) (index : Nat) (frame : List UInt8)
      (wasQueued : index ∈ before.device.queued)
      (fits : frame.length ≤ before.camera.head.start.length) (small : frame.length < 2 ^ 32)
      (camera : after.camera = before.camera.capture frame)
      (delivered : after.device.delivered = before.device.delivered ++ [frame])
      (queued : after.device.queued =
        if result then before.device.queued else before.device.queued.erase index) :
      Captured before after result

structure Untouched (before after : World Device) : Prop where
  ring : Ring after
  camera : after.camera = before.camera
  delivered : after.device.delivered = before.device.delivered
  queued : after.device.queued = before.device.queued

structure Held (before after : World Device) (index bytesused : Nat) : Prop where
  ring : Ring after
  camera : after.camera = before.camera
  valid : index < after.device.granted
  bound : bytesused ≤ (after.device.length index).toNat
  wasQueued : index ∈ before.device.queued
  delivered : after.device.delivered =
    before.device.delivered ++ [(after.device.frame index).take bytesused]
  queued : after.device.queued = before.device.queued.erase index

def AfterDequeue (before : World Device) (reply : Reply V4l2Buffer) (after : World Device) : Prop :=
  match reply with
  | .fail _ => Untouched before after
  | .done _ buf => Held before after buf.index.toNat buf.bytesused.toNat

theorem untouched_stable (before : World Device) : Stable (Untouched before) :=
  fun _ _ kept quiet =>
    { ring := ring_keeps kept.ring quiet.toKeeps
      camera := kept.camera
      delivered := quiet.delivered.trans kept.delivered
      queued := quiet.queued.trans kept.queued }

theorem untouched_dequeued {before world : World Device} {device : Device} {index bytesused : Nat}
    (kept : Untouched before world)
    (dequeued : Dequeued world.device device index bytesused) :
    Held before { world with device := device } index bytesused where
  ring := ring_keeps kept.ring dequeued.toKeeps
  camera := kept.camera
  valid := dequeued.granted.symm ▸ dequeued.valid
  bound := dequeued.length.symm ▸ dequeued.bound
  wasQueued := kept.queued ▸ dequeued.wasQueued
  delivered := dequeued.delivered.trans (congrArg (· ++ _) kept.delivered)
  queued := dequeued.queued.trans (congrArg (·.erase index) kept.queued)

theorem always_dequeue {world : World Device} (ring : Ring world) (fd : Int) :
    Always v4l2Respond MemorySafe (AfterDequeue world)
      (xioctl fd (.dqbuf (captureBuffer 0))) world := by
  have start : Untouched world world := ⟨ring, rfl, rfl, rfl⟩
  refine always_xioctl (untouched_stable world) start ?_ ?_ ?_
  · intro last kept
    exact ring_safe kept.ring (by simp)
  · intro errno last kept
    exact kept
  · intro r buf last device kept dequeued
    exact untouched_dequeued kept dequeued

-- The frame is in the head; the buffer goes back, or is lost to the ring.
theorem always_requeue {before world : World Device} {buf : V4l2Buffer} {frame : List UInt8}
    (ring : Ring world) (fd : Int) (wasQueued : buf.index.toNat ∈ before.device.queued)
    (fits : frame.length ≤ before.camera.head.start.length) (small : frame.length < 2 ^ 32)
    (camera : world.camera = before.camera.capture frame)
    (delivered : world.device.delivered = before.device.delivered ++ [frame])
    (queued : world.device.queued = before.device.queued.erase buf.index.toNat) :
    Always v4l2Respond MemorySafe
      (fun reply after => Ring after ∧ Captured before after (match reply with
        | .fail _ => false
        | .done _ _ => true))
      (xioctl fd (.qbuf buf)) world := by
  have start : Untouched world world := ⟨ring, rfl, rfl, rfl⟩
  refine always_xioctl (untouched_stable world) start ?_ ?_ ?_
  · intro last kept
    exact ring_safe kept.ring (by simp)
  · intro errno last kept
    refine ⟨kept.ring, .frame _ buf.index.toNat frame wasQueued fits small ?_ ?_ ?_⟩
    · exact kept.camera.trans camera
    · exact kept.delivered.trans delivered
    · exact kept.queued.trans queued
  · intro r arg last device kept requeued
    have requeued : Queued last.device device buf.index.toNat := requeued
    refine ⟨ring_keeps kept.ring requeued.toKeeps,
      .frame _ buf.index.toNat frame wasQueued fits small ?_ ?_ ?_⟩
    · exact kept.camera.trans camera
    · exact requeued.delivered.trans (kept.delivered.trans delivered)
    · calc
        device.queued = insert buf.index.toNat last.device.queued := requeued.queued
        _ = insert buf.index.toNat (before.device.queued.erase buf.index.toNat) := by
          rw [kept.queued, queued]
        _ = before.device.queued := Finset.insert_erase wasQueued

theorem always_capture {world : World Device} (ring : Ring world) :
    Always v4l2Respond MemorySafe (fun result after => Ring after ∧ Captured world after result)
      cameraCapture world := by
  refine always_load (ring_safe ring (by simp)) (always_bind (always_dequeue ring _) ?_)
  intro reply held after
  cases reply with
  | fail errno => exact ⟨after.ring, .nothing after.camera after.delivered after.queued⟩
  | done r buf =>
    have after : Held world held buf.index.toNat buf.bytesused.toNat := after
    let frame := (held.device.frame buf.index.toNat).take buf.bytesused.toNat
    have fits : frame.length ≤ held.camera.head.start.length := by
      have copied : frame.length ≤ buf.bytesused.toNat := List.length_take_le ..
      exact le_trans copied (le_trans after.bound (after.ring.capacity _ after.valid))
    have copySafe : MemorySafe (.memcpy buf.index.toNat buf.bytesused.toNat) held := by
      refine ⟨ring_headInBounds after.ring, fun index length same => ?_⟩
      cases same
      exact ring_copyInBounds after.ring after.valid after.bound
    refine always_memcpy copySafe fun camera copied => ?_
    obtain rfl : held.camera.setHead frame = camera :=
      Option.some.inj ((ring_memcpy after.ring after.valid after.bound).symm.trans copied)
    have size := setHead_size fits
    have copiedRing : Ring { held with camera := held.camera.setHead frame } :=
      ring_camera after.ring rfl rfl size (size ▸ after.ring.head)
    refine always_load (ring_safe copiedRing (by simp))
      (always_store (ring_safe copiedRing (by simp)) ?_)
    have length : frame.length = buf.bytesused.toNat := by
      have sizes := after.ring.sizes _ after.valid
      have bound := after.bound
      simp only [frame, List.length_take]
      omega
    have captured : { held.camera.setHead frame with
        head := { (held.camera.setHead frame).head with length := buf.bytesused.toNat } } =
          held.camera.capture frame := by
      rw [Camera.capture, length]
    have storedRing : Ring { held with camera := held.camera.capture frame } :=
      ring_camera after.ring rfl rfl size (by simpa [Camera.capture, size] using fits)
    have small : frame.length < 2 ^ 32 := length ▸ buf.bytesused.toNat_lt
    rw [captured]
    refine always_bind (always_requeue storedRing _ after.wasQueued (after.camera ▸ fits) small
      (congrArg (Camera.capture · frame) after.camera) after.delivered after.queued) ?_
    intro reply last after
    cases reply with
    | fail errno => exact after
    | done r arg => exact after

end Uvc
