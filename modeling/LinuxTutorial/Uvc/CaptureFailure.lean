import LinuxTutorial.Uvc.Recorded
import LinuxTutorial.Uvc.RingSafety
import Mathlib.Data.Finset.Card

set_option autoImplicit false

namespace Uvc

open Interaction Device

/-- What a capture that returns FALSE has to leave as it was. -/
structure Unchanged (before after : World Recorded) : Prop where
  contents : after.camera.head.start = before.camera.head.start
  length : after.camera.head.length = before.camera.head.length
  queued : after.queued = before.queued

-- In between no VIDIOC_QBUF was refused for good.
def NoneRefused (before after : World Recorded) : Prop := after.refusals = before.refusals

inductive Settled (before after : World Recorded) : Bool → Prop
  | nothing (camera : after.camera = before.camera) (queued : after.queued = before.queued)
      (refusals : after.refusals = before.refusals) : Settled before after false
  | whole (count : after.camera.bufferCount = before.camera.bufferCount)
      (queued : after.queued = before.queued) (refusals : after.refusals = before.refusals) :
      Settled before after true
  | lost (index : Nat) (count : after.camera.bufferCount = before.camera.bufferCount)
      (wasQueued : index ∈ before.queued) (queued : after.queued = before.queued.erase index)
      (refusals : after.refusals = before.refusals + 1) : Settled before after false

structure Idle (before after : World Recorded) : Prop where
  camera : after.camera = before.camera
  queued : after.queued = before.queued
  refusals : after.refusals = before.refusals

structure Taken (before after : World Recorded) (index : Nat) : Prop where
  camera : after.camera = before.camera
  wasQueued : index ∈ before.queued
  queued : after.queued = before.queued.erase index
  refusals : after.refusals = before.refusals
  interrupts : after.interrupts = 0

/-- The buffer is out of the queue, and `made` tries to give it back have been interrupted. -/
structure Offered (before : World Recorded) (index made : Nat) (world : World Recorded) :
    Prop where
  count : world.camera.bufferCount = before.camera.bufferCount
  wasQueued : index ∈ before.queued
  queued : world.queued = before.queued.erase index
  trying : made < 100 → world.refusals = before.refusals ∧ world.interrupts = made
  exhausted : made = 100 → world.refusals = before.refusals + 1

variable {before after : World Recorded}

theorem always_take (world : World Recorded) (fd : Int) :
    Always recordedRespond anyRecorded
      (fun reply after => match reply with
        | .fail _ => Idle world after
        | .done _ (buf : V4l2Buffer) => Taken world after buf.index.toNat)
      (xioctl fd (.dqbuf (captureBuffer 0))) world := by
  have start : Idle world world := ⟨rfl, rfl, rfl⟩
  apply always_xioctl_within _ start
  · intro last idle
    trivial
  · intro errno last idle
    exact idle
  · intro r buf last device idle answered
    have dequeued : Dequeued last.device.device device.device buf.index.toNat buf.bytesused.toNat :=
      answered.1
    have ledger : device.ledger = { last.device.ledger with interrupts := 0 } := answered.2
    constructor
    · exact idle.camera
    · exact idle.queued ▸ dequeued.wasQueued
    · calc
        device.device.queued = last.queued.erase buf.index.toNat := dequeued.queued
        _ = world.queued.erase buf.index.toNat := by rw [idle.queued]
    · exact (congrArg Ledger.refusals ledger).trans idle.refusals
    · exact congrArg Ledger.interrupts ledger
  · intro last errno device idle answered
    have quiet : Quiet last.device.device device.device := answered.1
    have ledger : device.ledger = { last.device.ledger with interrupts := 0 } := answered.2
    constructor
    · exact idle.camera
    · exact quiet.queued.trans idle.queued
    · exact (congrArg Ledger.refusals ledger).trans idle.refusals

theorem Offered.interrupted {index made : Nat} {world : World Recorded} {fd : Int}
    {buf : V4l2Buffer} {device : Recorded} (offered : Offered before index made world)
    (few : made < 100)
    (answered : recordedAnswers world.device (.ioctl fd (.qbuf buf)) (.fail eintr) device) :
    Offered before index (made + 1) { world with device := device } := by
  have quiet : Quiet world.device.device device.device := answered.1
  obtain ⟨refusals, interrupts⟩ := offered.trying few
  have counted : device.ledger = if world.interrupts + 1 < 100 then
      { world.device.ledger with interrupts := world.interrupts + 1 }
    else { refusals := world.refusals + 1, interrupts := 0 } := by
    rw [answered.2]
    simp only [Ledger.record, true_and]
    rfl
  rw [interrupts, refusals] at counted
  constructor
  · exact offered.count
  · exact offered.wasQueued
  · exact quiet.queued.trans offered.queued
  · intro fewer
    rw [if_pos fewer] at counted
    exact ⟨(congrArg Ledger.refusals counted).trans refusals, congrArg Ledger.interrupts counted⟩
  · intro last
    rw [if_neg (by omega)] at counted
    exact congrArg Ledger.refusals counted

theorem always_giveBack {world : World Recorded} {buf : V4l2Buffer} (fd : Int)
    (offered : Offered before buf.index.toNat 0 world) :
    Always recordedRespond anyRecorded
      (fun reply after => Settled before after (match reply with
        | .fail _ => false
        | .done _ _ => true))
      (xioctl fd (.qbuf buf)) world := by
  apply always_xioctl_tries offered
  · intro made last offered
    trivial
  · intro made last device few offered answered
    exact offered.interrupted few answered
  · intro last offered
    exact .lost _ offered.count offered.wasQueued offered.queued (offered.exhausted rfl)
  · intro made errno last device few error offered answered
    have quiet : Quiet last.device.device device.device := answered.1
    have ledger : device.ledger = last.device.ledger.record (.ioctl fd (.qbuf buf))
      (.fail errno) := answered.2
    apply Settled.lost buf.index.toNat
    · exact offered.count
    · exact offered.wasQueued
    · exact quiet.queued.trans offered.queued
    · calc
        device.ledger.refusals = last.refusals + 1 := by
          rw [ledger]
          simp only [Ledger.record, error, false_and, if_false]
          rfl
        _ = before.refusals + 1 := by rw [(offered.trying few).1]
  · intro made r arg last device few offered answered
    have requeued : Queued last.device.device device.device buf.index.toNat := answered.1
    have ledger : device.ledger = { last.device.ledger with interrupts := 0 } := answered.2
    apply Settled.whole
    · exact offered.count
    · calc
        device.device.queued = insert buf.index.toNat last.queued := requeued.queued
        _ = insert buf.index.toNat (before.queued.erase buf.index.toNat) := by
          rw [offered.queued]
        _ = before.queued := Finset.insert_erase offered.wasQueued
    · exact (congrArg Ledger.refusals ledger).trans (offered.trying few).1

theorem memcpy_count {camera copied : Camera} {contents : Mapping → List UInt8}
    {index length : Nat} (done : camera.memcpy contents index length = some copied) :
    copied.bufferCount = camera.bufferCount := by
  unfold Camera.memcpy at done
  split at done
  · split_ifs at done
    cases done
    rfl
  · cases done

theorem always_capture_settled (world : World Recorded) :
    Always recordedRespond anyRecorded (fun result after => Settled world after result)
      cameraCapture world := by
  apply always_load trivial
  apply always_bind (always_take world _)
  intro reply held after
  cases reply with
  | fail errno =>
    have idle : Idle world held := after
    exact .nothing idle.camera idle.queued idle.refusals
  | done r buf =>
    have taken : Taken world held buf.index.toNat := after
    apply always_memcpy trivial
    intro copied done
    have count : copied.bufferCount = world.camera.bufferCount := by
      rw [memcpy_count done, taken.camera]
    apply always_load trivial
    apply always_store trivial
    apply always_bind
    · apply always_giveBack
      exact ⟨count, taken.wasQueued, taken.queued, fun _ => ⟨taken.refusals, taken.interrupts⟩,
        fun none => nomatch none⟩
    · intro reply last settled
      cases reply with
      | fail errno => exact settled
      | done r arg => exact settled

structure Account (before after : World Recorded) : Prop where
  count : after.camera.bufferCount = before.camera.bufferCount
  queued : after.queued ⊆ before.queued
  card : after.queued.card + after.refusals = before.queued.card + before.refusals

theorem settled_account {result : Bool} (settled : Settled before after result) :
    Account before after := by
  cases settled with
  | nothing camera queued refusals => exact ⟨by rw [camera], by rw [queued], by rw [queued, refusals]⟩
  | whole count queued refusals => exact ⟨count, by rw [queued], by rw [queued, refusals]⟩
  | lost index count wasQueued queued refusals =>
    have card := Finset.card_erase_add_one wasQueued
    constructor
    · exact count
    · rw [queued]
      exact Finset.erase_subset _ _
    · rw [queued, refusals]
      omega

theorem Account.trans {middle : World Recorded} (first : Account before middle)
    (second : Account middle after) : Account before after where
  count := second.count.trans first.count
  queued := second.queued.trans first.queued
  card := second.card.trans first.card

theorem always_captures_account (count : Nat) (world : World Recorded) :
    Always recordedRespond anyRecorded (fun _ => Account world) (captures count) world := by
  induction count generalizing world with
  | zero => exact ⟨rfl, subset_rfl, rfl⟩
  | succ count ih =>
    apply always_bind (always_capture_settled world)
    intro result last settled
    apply (ih last).weaken (fun _ _ during => during)
    intro _ final account
    exact (settled_account settled).trans account

theorem Account.queued_iff (account : Account before after) :
    after.queued = before.queued ↔ NoneRefused before after := by
  have card := account.card
  rw [NoneRefused]
  constructor
  · intro same
    rw [same] at card
    omega
  · intro none
    apply Finset.eq_of_subset_of_card_le account.queued
    omega

theorem Settled.unchanged_iff (settled : Settled before after false) :
    Unchanged before after ↔ NoneRefused before after := by
  generalize failed : false = result at settled
  cases settled with
  | nothing camera queued refusals =>
    exact iff_of_true ⟨by rw [camera], by rw [camera], queued⟩ refusals
  | whole => cases failed
  | lost index count wasQueued queued refusals =>
    refine iff_of_false ?_ ?_
    · intro unchanged
      have missing := Finset.notMem_erase index before.queued
      rw [← queued, unchanged.queued] at missing
      exact missing wasQueued
    · rw [NoneRefused, refusals]
      omega

theorem capture_failure_iff_none_refused (count : Nat) (before after : World Recorded) :
    (Returns recordedRespond cameraCapture before false after →
      (Unchanged before after ↔ NoneRefused before after)) ∧
    (Returns recordedRespond (captures count) before () after →
      (after.queued = before.queued ↔ NoneRefused before after)) ∧
    ∀ width height fresh, Returns recordedRespond (prepare width height) fresh () before →
      Returns recordedRespond (captures count) before () after →
        (AllQueued after ↔ NoneRefused before after) := by
  refine ⟨?_, ?_, ?_⟩
  · intro captured
    have settled := (always_capture_settled before).returns captured
    exact settled.unchanged_iff
  · intro captured
    have account := (always_captures_account count before).returns captured
    exact account.queued_iff
  · intro width height fresh prepared captured
    have account := (always_captures_account count before).returns captured
    have all : before.queued = Finset.range before.camera.bufferCount := prepare_all_queued prepared
    rw [AllQueued, account.count, ← all]
    exact account.queued_iff

section Runs

theorem recorded_within {driver : Driver Device}
    (within : ∀ device call, Webcam.Sized device →
      V4l2 device call (driver.call device call).1 (driver.call device call).2 ∧
        Webcam.Sized (driver.call device call).2)
    (recorded : Recorded) (call : SysCall) (sized : Webcam.Sized recorded.device) :
    recordedAnswers recorded call (driver.recorded.call recorded call).1
        (driver.recorded.call recorded call).2 ∧
      Webcam.Sized (driver.recorded.call recorded call).2.device := by
  obtain ⟨answered, after⟩ := within recorded.device call sized
  exact ⟨⟨answered, rfl⟩, after⟩

theorem recorded_returns {α : Type} {program : CameraM α} {value : α} {world last : World Recorded}
    {driver : Driver Device} (contents : driver.contents = Device.contents)
    (within : ∀ device call, Webcam.Sized device →
      V4l2 device call (driver.call device call).1 (driver.call device call).2 ∧
        Webcam.Sized (driver.call device call).2)
    (sized : Webcam.Sized world.device.device)
    (completed : run driver.recorded.handle program world = .returned value last) :
    Returns recordedRespond program world value last := by
  have reached := returns_of_run (handle_respond (recorded_within within)) sized completed
  have same : driver.recorded.contents = fun recorded => recorded.device.contents := by
    funext recorded
    exact congrFun contents recorded.device
  rwa [same] at reached

def unopened : World Recorded where
  camera := Webcam.unopened.camera
  device := { device := Webcam.unopened.device, ledger := { refusals := 0, interrupts := 0 } }

theorem webcam_runs : ∃ failed ready last,
    Returns recordedRespond cameraCapture unopened false failed ∧ NoneRefused unopened failed ∧
    Returns recordedRespond (prepare 2 1) unopened () ready ∧
    Returns recordedRespond (captures 2) ready () last ∧ NoneRefused ready last := by
  have within := Webcam.driver_within .ready
  have sized : ∀ index, index < 1 → Webcam.still.length = (4 : UInt32).toNat := fun _ _ => rfl
  exact ⟨_, _, _, recorded_returns rfl within Webcam.unopened_sized rfl, rfl,
    recorded_returns rfl within Webcam.unopened_sized rfl,
    recorded_returns rfl within sized rfl, rfl⟩

theorem capture_failure_iff_none_refused_webcam :
    ∃ failed ready last, Returns recordedRespond cameraCapture unopened false failed ∧
      Unchanged unopened failed ∧
      Returns recordedRespond (prepare 2 1) unopened () ready ∧
      Returns recordedRespond (captures 2) ready () last ∧ AllQueued last := by
  obtain ⟨failed, ready, last, tried, idle, prepared, captured, none⟩ := webcam_runs
  have one := capture_failure_iff_none_refused 0 unopened failed
  have two := capture_failure_iff_none_refused 2 ready last
  exact ⟨failed, ready, last, tried, (one.1 tried).mpr idle, prepared, captured,
    (two.2.2 2 1 unopened prepared captured).mpr none⟩

-- A webcam that is unplugged while its frame is copied: it takes no buffer back.
def unplugged : Driver Device where
  call
    | device, .ioctl _ (.qbuf _) => (.fail 19, device)
    | device, call => (Webcam.driver .ready).call device call
  contents := Device.contents

theorem unplugged_within (device : Device) (call : SysCall) (sized : Webcam.Sized device) :
    V4l2 device call (unplugged.call device call).1 (unplugged.call device call).2 ∧
      Webcam.Sized (unplugged.call device call).2 := by
  have within := Webcam.driver_within .ready device call sized
  cases call with
  | ioctl fd request =>
    cases request with
    | qbuf buf => exact ⟨Webcam.quiet sized, sized⟩
    | _ => exact within
  | _ => exact within

def streaming : World Recorded where
  camera :=
    { fd := 3, width := 2, height := 1, bufferCount := 1, buffers := [⟨some ⟨0, 4⟩, 4⟩]
      head := { start := [none, none, none, none], length := 0 } }
  device :=
    { device :=
        { granted := 1, length := fun _ => 4, offset := fun _ => 0, queued := {0}
          memory := fun _ => Webcam.still, delivered := [] }
      ledger := { refusals := 0, interrupts := 0 } }

theorem unplugged_capture_loses_buffer :
    ¬ ∀ before after, Returns recordedRespond cameraCapture before false after →
      Unchanged before after := by
  intro unchanged
  have sized : Webcam.Sized streaming.device.device := fun _ _ => rfl
  have captured := @recorded_returns _ cameraCapture false streaming _ _ rfl unplugged_within
    sized rfl
  have kept : (∅ : Finset Nat) = {0} := (unchanged _ _ captured).queued
  simp at kept

end Runs

end Uvc
