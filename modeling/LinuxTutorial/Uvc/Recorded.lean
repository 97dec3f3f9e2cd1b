import LinuxTutorial.Uvc.Setup
import Mathlib.Data.Finset.Range

set_option autoImplicit false

namespace Uvc

open Interaction Device

/-- `interrupts` are those of the request that is being made. -/
structure Ledger where
  refusals : Nat
  interrupts : Nat

-- The hundredth interrupt is the one after which xioctl gives up.
def Ledger.record (ledger : Ledger) : (call : SysCall) → call.Answer → Ledger
  | .ioctl _ (.qbuf _), .fail errno =>
    if errno = eintr ∧ ledger.interrupts + 1 < 100 then
      { ledger with interrupts := ledger.interrupts + 1 }
    else { refusals := ledger.refusals + 1, interrupts := 0 }
  | _, _ => { ledger with interrupts := 0 }

structure Recorded where
  device : Device
  ledger : Ledger

def recordedAnswers (before : Recorded) (call : SysCall) (answer : call.Answer)
    (after : Recorded) : Prop :=
  V4l2 before.device call answer after.device ∧ after.ledger = before.ledger.record call answer

abbrev recordedRespond : Respond Op Op.Answer (World Recorded) :=
  respond recordedAnswers fun recorded => recorded.device.contents

def World.queued (world : World Recorded) : Finset Nat := world.device.device.queued

def World.refusals (world : World Recorded) : Nat := world.device.ledger.refusals

def World.interrupts (world : World Recorded) : Nat := world.device.ledger.interrupts

def AllQueued (world : World Recorded) : Prop :=
  world.queued = Finset.range world.camera.bufferCount

def anyRecorded (_ : Op) (_ : World Recorded) : Prop := True

def anyWorld (_ : World Recorded) : Prop := True

theorem recorded_failed {before after : Recorded} {fd : Int} {request : Request} {errno : Nat}
    (answered : recordedAnswers before (.ioctl fd request) (.fail errno) after) :
    Quiet before.device after.device := by
  cases request <;> exact answered.1

theorem always_anything {α : Type} (program : CameraM α) (world : World Recorded) :
    Always recordedRespond anyRecorded (fun _ _ => True) program world := by
  induction program generalizing world with
  | done value => trivial
  | ask op next ih =>
    constructor
    · trivial
    · intro answer middle _
      exact ih answer middle

structure Filling (count index : Nat) (world : World Recorded) : Prop where
  bufferCount : world.camera.bufferCount = count
  small : count < 2 ^ 32
  queued : world.queued = Finset.range index

variable {count index : Nat} {world : World Recorded}

theorem filling_quiet {device : Recorded} (filling : Filling count index world)
    (quiet : Quiet world.device.device device.device) :
    Filling count index { world with device := device } where
  bufferCount := filling.bufferCount
  small := filling.small
  queued := quiet.queued.trans filling.queued

theorem filling_camera {camera : Camera} (filling : Filling count index world)
    (same : camera.bufferCount = world.camera.bufferCount) :
    Filling count index { world with camera := camera } where
  bufferCount := same.trans filling.bufferCount
  small := filling.small
  queued := filling.queued

theorem always_plain_filling (filling : Filling count index world) (fd : Int) (request : Request)
    (plain : ∀ before r arg after, V4l2Ioctl before request (.done r arg) after →
      Quiet before after) :
    Always recordedRespond anyRecorded (fun _ => Filling count index) (xioctl fd request)
      world := by
  apply always_xioctl_within
    (fun _ _ _ filling answered => filling_quiet filling (recorded_failed answered)) filling
  · intro last _
    trivial
  · intro errno last filling
    exact filling
  · intro r arg last device filling answered
    have answered : V4l2Ioctl last.device.device request (.done r arg) device.device := answered.1
    exact filling_quiet filling (plain _ _ _ _ answered)

theorem always_requestBuffers_filling (camera : Camera) (world : World Recorded) :
    Always recordedRespond anyRecorded (fun count => Filling count 0) (requestBuffers camera)
      world := by
  have asked : Always recordedRespond anyRecorded
      (fun reply after => match reply with
        | .fail _ => True
        | .done _ (_ : RequestBuffers) => after.queued = ∅)
      (xioctl camera.fd (.reqbufs
        { count := 4, type := bufTypeVideoCapture, memory := memoryMmap })) world := by
    apply always_xioctl_within (fun _ _ _ _ _ => trivial) (show anyWorld world from trivial)
    · intro last _
      trivial
    · intro errno last _
      trivial
    · intro r answer last device _ answered
      have granted : Granted last.device.device device.device answer.count.toNat := answered.1
      exact granted.queued
  apply always_bind asked
  intro reply last after
  cases reply with
  | fail errno => exact always_quit trivial
  | done r answer =>
    apply always_store trivial
    exact ⟨rfl, answer.count.toNat_lt, after⟩

theorem always_mapBuffer_filling (filling : Filling count 0 world) (position bufMax : Nat) :
    Always recordedRespond anyRecorded (fun _ => Filling count 0) (mapBuffer position bufMax)
      world := by
  apply always_load trivial
  refine always_bind (always_plain_filling filling _ _ fun _ _ _ _ answered => answered.2.2) ?_
  intro reply last filling
  cases reply with
  | fail errno => exact always_quit trivial
  | done r buf =>
    apply always_load trivial
    apply always_store trivial
    apply always_sys trivial
    intro start device answered
    cases start with
    | none => exact always_quit trivial
    | some start =>
      apply always_load trivial
      apply always_store trivial
      have sized := @filling_camera _ _ last (last.camera.updateBuffer position fun buffer =>
        { buffer with length := buf.length.toNat }) filling rfl
      have mapped := @filling_quiet _ _ _ device sized answered.1.2
      exact filling_camera mapped rfl

theorem always_mapBuffers_filling (remaining : Nat) (filling : Filling count 0 world)
    (position bufMax : Nat) :
    Always recordedRespond anyRecorded (fun _ => Filling count 0)
      (mapBuffers position bufMax remaining) world := by
  induction remaining generalizing position bufMax world with
  | zero => exact filling
  | succ remaining ih =>
    apply always_bind (always_mapBuffer_filling filling position bufMax)
    intro next last filling
    exact ih filling (position + 1) next

theorem always_cameraInit_filling (world : World Recorded) :
    Always recordedRespond anyRecorded (fun _ after => ∃ count, Filling count 0 after) cameraInit
      world := by
  apply always_load trivial
  apply always_bind (always_anything _ _)
  intro _ checked _
  apply always_bind (always_anything _ _)
  intro _ cropped _
  apply always_bind (always_anything _ _)
  intro _ formatted _
  apply always_bind (always_requestBuffers_filling _ _)
  intro count granted filling
  apply always_bind (always_mapBuffers_filling count filling 0 0)
  intro bufMax mapped filling
  apply always_load trivial
  apply always_store trivial
  exact ⟨count, filling_camera filling rfl⟩

def AfterQueue (count index : Nat) : Reply V4l2Buffer → World Recorded → Prop
  | .fail _, _ => True
  | .done _ _, after => Filling count (index + 1) after

theorem always_queueBuffers_filling (remaining : Nat) (filling : Filling count index world)
    (covers : index + remaining = count) (fd : Int) :
    Always recordedRespond anyRecorded (fun _ => Filling count count)
      (queueBuffers fd index remaining) world := by
  induction remaining generalizing index world with
  | zero =>
    obtain rfl : index = count := covers
    exact filling
  | succ remaining ih =>
    have position : (captureBuffer index).index.toNat = index := by
      have small := filling.small
      simp only [captureBuffer, UInt32.toNat_ofNat']
      omega
    have asked : Always recordedRespond anyRecorded (AfterQueue count index)
        (xioctl fd (.qbuf (captureBuffer index))) world := by
      apply always_xioctl_within
        (fun _ _ _ filling answered => filling_quiet filling (recorded_failed answered)) filling
      · intro last _
        trivial
      · intro errno last _
        trivial
      · intro r arg last device filling answered
        have queued : Queued last.device.device device.device
            (captureBuffer index).index.toNat := answered.1
        constructor
        · exact filling.bufferCount
        · exact filling.small
        · calc
            device.device.queued = insert index last.queued := position ▸ queued.queued
            _ = insert index (Finset.range index) := by rw [filling.queued]
            _ = Finset.range (index + 1) := Finset.range_add_one.symm
    apply always_bind asked
    intro reply last after
    cases reply with
    | fail errno => exact always_quit trivial
    | done r arg => exact ih after (by omega)

theorem always_cameraStart_filling (filling : Filling count 0 world) :
    Always recordedRespond anyRecorded (fun _ => AllQueued) cameraStart world := by
  have covers : 0 + world.camera.bufferCount = count := by
    rw [filling.bufferCount]
    omega
  apply always_load trivial
  apply always_bind (always_queueBuffers_filling _ filling covers _)
  intro _ last full
  refine always_bind (always_plain_filling full _ _ fun _ _ _ _ quiet => quiet) ?_
  intro reply last full
  cases reply with
  | fail errno => exact always_quit trivial
  | done r arg =>
    have all : AllQueued last := full.queued.trans (congrArg Finset.range full.bufferCount.symm)
    exact all

theorem prepare_all_queued {width height : UInt32} {fresh ready : World Recorded}
    (prepared : Returns recordedRespond (prepare width height) fresh () ready) :
    AllQueued ready := by
  have always : Always recordedRespond anyRecorded (fun _ => AllQueued) (prepare width height)
      fresh := by
    apply always_bind (always_anything _ _)
    intro _ opened _
    apply always_bind (always_cameraInit_filling opened)
    intro _ inited filling
    obtain ⟨count, filling⟩ := filling
    exact always_cameraStart_filling filling
  exact always.returns prepared

def Driver.recorded (driver : Driver Device) : Driver Recorded where
  call before call :=
    let reply := driver.call before.device call
    (reply.1, { device := reply.2, ledger := before.ledger.record call reply.1 })
  contents before := driver.contents before.device

end Uvc
