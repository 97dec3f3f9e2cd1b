import LinuxTutorial.Uvc.Camera
import Mathlib.Data.Finset.Insert
import Mathlib.Data.Finset.Erase
import Mathlib.Data.Finset.Basic

set_option autoImplicit false

/-!
A world is the camera of the process with the state of the device; `V4l2` is the contract of a
V4L2 capture device with memory mapped buffers.
-/

namespace Uvc

open Interaction

structure World (δ : Type) where
  camera : Camera
  device : δ

/-- memcpy(camera->head.start, camera->buffers[index].start, length), or `none` where it
leaves the mapping or the head. -/
def Camera.memcpy (camera : Camera) (contents : Mapping → List UInt8) (index length : Nat) :
    Option Camera :=
  match camera.buffers[index]? with
  | some { start := some mapping, .. } =>
    if length ≤ mapping.length.toNat ∧ length ≤ camera.head.start.length then
      let bytes := ((contents mapping).take length).map some
      some { camera with
        head := { camera.head with start := bytes ++ camera.head.start.drop length } }
    else none
  | _ => none

section Environment

variable {δ : Type}

def respond (answers : δ → (call : SysCall) → call.Answer → δ → Prop)
    (contents : δ → Mapping → List UInt8) : Respond Op Op.Answer (World δ)
  | world, .load, answer, next => answer = world.camera ∧ next = world
  | world, .store camera, _, next => next = { world with camera := camera }
  | world, .memcpy index length, _, next =>
    ∃ camera, world.camera.memcpy (contents world.device) index length = some camera ∧
      next = { world with camera := camera }
  | world, .sys call, answer, next =>
    answers world.device call answer next.device ∧ next.camera = world.camera
  | _, .exit _, _, _ => False

structure Driver (δ : Type) where
  call : δ → (call : SysCall) → call.Answer × δ
  contents : δ → Mapping → List UInt8

def Driver.handle (driver : Driver δ) : Handler Op Op.Answer (World δ)
  | world, .load => some (world.camera, world)
  | world, .store camera => some ((), { world with camera := camera })
  | world, .memcpy index length =>
    (world.camera.memcpy (driver.contents world.device) index length).map fun camera =>
      ((), { world with camera := camera })
  | world, .sys call =>
    let reply := driver.call world.device call
    some (reply.1, { world with device := reply.2 })
  | _, .exit _ => none

theorem handle_respond {driver : Driver δ} {kept : δ → Prop}
    {answers : δ → (call : SysCall) → call.Answer → δ → Prop}
    (within : ∀ device call, kept device →
      answers device call (driver.call device call).1 (driver.call device call).2 ∧
        kept (driver.call device call).2)
    (before : World δ) (op : Op) (answer : op.Answer) (after : World δ) (holds : kept before.device)
    (handled : driver.handle before op = some (answer, after)) :
    respond answers driver.contents before op answer after ∧ kept after.device := by
  cases op with
  | load =>
    cases handled
    exact ⟨⟨rfl, rfl⟩, holds⟩
  | store camera =>
    cases handled
    exact ⟨rfl, holds⟩
  | memcpy index length =>
    obtain ⟨camera, copied, same⟩ := Option.map_eq_some_iff.mp handled
    cases same
    exact ⟨⟨camera, copied, rfl⟩, holds⟩
  | sys call =>
    cases handled
    obtain ⟨answered, after⟩ := within before.device call holds
    exact ⟨⟨answered, rfl⟩, after⟩
  | exit msg => cases handled

theorem run_load {α : Type} (driver : Driver δ) (next : Camera → CameraM α) (world : World δ) :
    run driver.handle (load >>= next) world = run driver.handle (next world.camera) world := rfl

theorem run_sys {α : Type} (driver : Driver δ) (call : SysCall) (next : call.Answer → CameraM α)
    (world : World δ) :
    run driver.handle (sys call >>= next) world =
      run driver.handle (next (driver.call world.device call).1)
        { world with device := (driver.call world.device call).2 } := rfl

end Environment

/-- `length` and `offset` are what QUERYBUF reports for a buffer, `memory` the contents of the
device at an offset. `delivered` is the history of the frames that DQBUF has handed out. -/
structure Device where
  granted : Nat
  length : Nat → UInt32
  offset : Nat → UInt32
  queued : Finset Nat
  memory : UInt32 → List UInt8
  delivered : List (List UInt8)

namespace Device

def contents (device : Device) (mapping : Mapping) : List UInt8 := device.memory mapping.offset

def frame (device : Device) (index : Nat) : List UInt8 := device.memory (device.offset index)

/-- The buffers keep their place and size, and the driver writes only to queued ones. -/
structure Keeps (before after : Device) (writable : Finset Nat) : Prop where
  granted : after.granted = before.granted
  length : after.length = before.length
  offset : after.offset = before.offset
  frame : ∀ index, index < before.granted → index ∉ writable →
    after.frame index = before.frame index
  sizes : ∀ index, index < before.granted → (after.frame index).length = (before.length index).toNat

structure Quiet (before after : Device) : Prop extends Keeps before after before.queued where
  queued : after.queued = before.queued
  delivered : after.delivered = before.delivered

structure Granted (before after : Device) (count : Nat) : Prop where
  granted : after.granted = count
  queued : after.queued = ∅
  sizes : ∀ index, index < count → (after.frame index).length = (after.length index).toNat
  delivered : after.delivered = before.delivered

structure Queued (before after : Device) (index : Nat) : Prop
    extends Keeps before after (insert index before.queued) where
  queued : after.queued = insert index before.queued
  delivered : after.delivered = before.delivered

structure Dequeued (before after : Device) (index bytesused : Nat) : Prop
    extends Keeps before after before.queued where
  valid : index < before.granted
  wasQueued : index ∈ before.queued
  bound : bytesused ≤ (before.length index).toNat
  queued : after.queued = before.queued.erase index
  delivered : after.delivered = before.delivered ++ [(after.frame index).take bytesused]

structure Stopped (before after : Device) : Prop extends Keeps before after before.queued where
  queued : after.queued = ∅
  delivered : after.delivered = before.delivered

end Device

open Device

def V4l2Ioctl (before : Device) : (request : Request) → Reply request.Arg → Device → Prop
  | _, .fail _, after => Quiet before after
  | .reqbufs _, .done _ arg, after => Granted before after arg.count.toNat
  | .querybuf buf, .done _ arg, after =>
    arg.length = before.length buf.index.toNat ∧ arg.offset = before.offset buf.index.toNat ∧
      Quiet before after
  | .qbuf buf, .done _ _, after => Queued before after buf.index.toNat
  | .dqbuf _, .done _ arg, after => Dequeued before after arg.index.toNat arg.bytesused.toNat
  | .streamoff _, .done _ _, after => Stopped before after
  | _, .done _ _, after => Quiet before after

def V4l2 (before : Device) : (call : SysCall) → call.Answer → Device → Prop
  | .ioctl _ request, reply, after => V4l2Ioctl before request reply after
  | .mmap _ length offset, start, after =>
    (∀ mapping, start = some mapping → mapping = ⟨offset, length⟩) ∧ Quiet before after
  | _, _, after => Quiet before after

abbrev v4l2Respond : Respond Op Op.Answer (World Device) := respond V4l2 Device.contents

-- A camera of one buffer, which holds the same frame of two pixels each time it is filled.
namespace Webcam

def still : List UInt8 := [16, 128, 235, 128]

def ioctl (device : Device) : (request : Request) → Reply request.Arg × Device
  | .querycap => (.done 0 ⟨capVideoCapture ||| capStreaming⟩, device)
  | .sFmt format => (.done 0 format, device)
  | .reqbufs req =>
    (.done 0 { req with count := 1 },
      { granted := 1, length := fun _ => 4, offset := fun _ => 0, queued := ∅
        memory := fun _ => still, delivered := device.delivered })
  | .querybuf buf =>
    (.done 0 { buf with
      length := device.length buf.index.toNat, offset := device.offset buf.index.toNat }, device)
  | .qbuf buf => (.done 0 buf, { device with queued := insert buf.index.toNat device.queued })
  | .dqbuf buf =>
    if 0 ∈ device.queued ∧ 0 < device.granted then
      (.done 0 { buf with index := 0, bytesused := device.length 0 },
        { device with
          queued := device.queued.erase 0
          delivered := device.delivered ++ [(device.frame 0).take (device.length 0).toNat] })
    else (.fail 11, device)
  | .streamon type => (.done 0 type, device)
  | .streamoff type => (.done 0 type, { device with queued := ∅ })
  | .cropcap _ | .sCrop _ => (.fail 25, device)

def driver (selected : SelectReply) : Driver Device where
  call
    | device, .open _ => (some 3, device)
    | device, .ioctl _ request => ioctl device request
    | device, .select _ _ => (selected, device)
    | device, .mmap _ length offset => (some ⟨offset, length⟩, device)
    | device, .munmap _ _ => ((), device)
    | device, .close _ => (true, device)
  contents := Device.contents

def Sized (device : Device) : Prop :=
  ∀ index, index < device.granted →
    (device.frame index).length = (device.length index).toNat

theorem quiet {device : Device} (sized : Sized device) : Quiet device device where
  granted := rfl
  length := rfl
  offset := rfl
  frame _ _ _ := rfl
  sizes := sized
  queued := rfl
  delivered := rfl

theorem ioctl_within (device : Device) (request : Request) (sized : Sized device) :
    V4l2Ioctl device request (ioctl device request).1 (ioctl device request).2 ∧
      Sized (ioctl device request).2 := by
  cases request with
  | reqbufs req =>
    refine ⟨⟨rfl, rfl, fun _ _ => rfl, rfl⟩, fun _ _ => rfl⟩
  | querybuf buf => exact ⟨⟨rfl, rfl, quiet sized⟩, sized⟩
  | qbuf buf =>
    have keeps : Keeps device (ioctl device (.qbuf buf)).2 (insert buf.index.toNat device.queued) :=
      ⟨rfl, rfl, rfl, fun _ _ _ => rfl, sized⟩
    exact ⟨⟨keeps, rfl, rfl⟩, sized⟩
  | dqbuf buf =>
    by_cases available : 0 ∈ device.queued ∧ 0 < device.granted
    · simp only [ioctl, available, and_self, if_true]
      have keeps : Keeps device { device with
          queued := device.queued.erase 0
          delivered := device.delivered ++ [(device.frame 0).take (device.length 0).toNat] }
          device.queued :=
        ⟨rfl, rfl, rfl, fun _ _ _ => rfl, sized⟩
      exact ⟨⟨keeps, available.2, available.1, le_refl _, rfl, rfl⟩, sized⟩
    · simp only [ioctl, available, if_false]
      exact ⟨quiet sized, sized⟩
  | streamoff type => exact ⟨⟨⟨rfl, rfl, rfl, fun _ _ _ => rfl, sized⟩, rfl, rfl⟩, sized⟩
  | querycap | sFmt | streamon | cropcap | sCrop => exact ⟨quiet sized, sized⟩

theorem driver_within (selected : SelectReply) (device : Device) (call : SysCall)
    (sized : Sized device) :
    V4l2 device call ((driver selected).call device call).1
        ((driver selected).call device call).2 ∧
      Sized ((driver selected).call device call).2 := by
  cases call with
  | ioctl fd request => exact ioctl_within device request sized
  | mmap fd length offset =>
    refine ⟨⟨?_, quiet sized⟩, sized⟩
    intro mapping mapped
    exact (Option.some.inj mapped).symm
  | «open» | select | munmap | close => exact ⟨quiet sized, sized⟩

theorem returns {α : Type} {program : CameraM α} {value : α} {world last : World Device}
    (selected : SelectReply) (sized : Sized world.device)
    (completed : run (driver selected).handle program world = .returned value last) :
    Returns v4l2Respond program world value last :=
  returns_of_run (handle_respond (driver_within selected)) sized completed

def unopened : World Device where
  camera := ⟨-1, 0, 0, 0, [], ⟨[], 0⟩⟩
  device :=
    { granted := 0, length := fun _ => 0, offset := fun _ => 0, queued := ∅
      memory := fun _ => [], delivered := [] }

theorem unopened_sized : Sized unopened.device := fun _ impossible => nomatch impossible

end Webcam

end Uvc
