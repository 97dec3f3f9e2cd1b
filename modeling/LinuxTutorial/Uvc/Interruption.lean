import LinuxTutorial.Uvc.Driver

set_option autoImplicit false

/-!
A driver with interruptions answers a call with EINTR as often as a schedule says before it
answers the call itself.
-/

namespace Uvc

open Interaction

-- How often each of the coming answers of the driver is put off.
abbrev Schedule := Nat → Nat

def Schedule.later (schedule : Schedule) : Schedule := fun call => schedule (call + 1)

def Schedule.interrupt (schedule : Schedule) : Schedule
  | 0 => schedule 0 - 1
  | call + 1 => schedule (call + 1)

def Schedule.Sparse (schedule : Schedule) : Prop := ∀ call, schedule call < 100

theorem Schedule.Sparse.later {schedule : Schedule} (sparse : schedule.Sparse) :
    schedule.later.Sparse :=
  fun call => sparse (call + 1)

theorem Schedule.Sparse.interrupt {schedule : Schedule} (sparse : schedule.Sparse) :
    schedule.interrupt.Sparse := by
  intro call
  cases call with
  | zero =>
    have bound := sparse 0
    simp only [Schedule.interrupt]
    omega
  | succ call => exact sparse (call + 1)

variable {δ α β : Type}

def Driver.interrupted (driver : Driver δ) : Driver (δ × Schedule) where
  call
    | (device, schedule), .ioctl fd request =>
      if 0 < schedule 0 then (.fail eintr, (device, schedule.interrupt))
      else
        let reply := driver.call device (.ioctl fd request)
        (reply.1, (reply.2, schedule.later))
    | (device, schedule), .select fd timeout =>
      if 0 < schedule 0 then (.fail eintr, (device, schedule.interrupt))
      else
        let reply := driver.call device (.select fd timeout)
        (reply.1, (reply.2, schedule.later))
    | (device, schedule), call =>
      let reply := driver.call device call
      (reply.1, (reply.2, schedule))
  contents state := driver.contents state.1

-- A call that the driver itself answers with EINTR leaves it as it was.
def Driver.Restartable (driver : Driver δ) : Prop :=
  ∀ device fd request, (driver.call device (.ioctl fd request)).1 = Reply.fail eintr →
    (driver.call device (.ioctl fd request)).2 = device

def World.attach (world : World δ) (schedule : Schedule) : World (δ × Schedule) :=
  { camera := world.camera, device := (world.device, schedule) }

def World.erase (world : World (δ × Schedule)) : World δ :=
  { camera := world.camera, device := world.device.1 }

/-- Interruptions change nothing in a run of the program but the schedule. -/
def Transparent (driver : Driver δ) (program : CameraM α) : Prop :=
  ∀ (world : World δ) (schedule : Schedule), schedule.Sparse → ∃ rest : Schedule, rest.Sparse ∧
    run driver.interrupted.handle program (world.attach schedule) =
      (run driver.handle program world).onState (·.attach rest)

variable {driver : Driver δ}

theorem transparent_done (value : α) : Transparent driver (.done value) :=
  fun _ schedule sparse => ⟨schedule, sparse, rfl⟩

theorem transparent_bind {program : CameraM α} {next : α → CameraM β}
    (first : Transparent driver program) (second : ∀ value, Transparent driver (next value)) :
    Transparent driver (program >>= next) := by
  intro world schedule sparse
  obtain ⟨rest, sparse, same⟩ := first world schedule sparse
  rw [run_bind, run_bind, same]
  cases run driver.handle program world with
  | returned value last => exact second value last rest sparse
  | halted op last => exact ⟨rest, sparse, rfl⟩

theorem transparent_ask {op : Op} {next : op.Answer → CameraM α}
    (same : ∀ (world : World δ) (schedule : Schedule),
      driver.interrupted.handle (world.attach schedule) op =
        (driver.handle world op).map fun reply => (reply.1, reply.2.attach schedule))
    (rest : ∀ answer, Transparent driver (next answer)) :
    Transparent driver (.ask op next) := by
  intro world schedule sparse
  simp only [run, same]
  cases driver.handle world op with
  | none => exact ⟨schedule, sparse, rfl⟩
  | some reply => exact rest reply.1 reply.2 schedule sparse

theorem transparent_load : Transparent driver load :=
  transparent_ask (fun _ _ => rfl) transparent_done

theorem transparent_store (camera : Camera) : Transparent driver (store camera) :=
  transparent_ask (fun _ _ => rfl) transparent_done

theorem transparent_memcpy (index length : Nat) : Transparent driver (memcpyHead index length) := by
  refine transparent_ask (fun world schedule => ?_) transparent_done
  simp only [Driver.handle, Driver.interrupted, World.attach, Option.map_map]
  rfl

theorem transparent_mmap (fd : Int) (length offset : UInt32) :
    Transparent driver (sys (.mmap fd length offset)) :=
  transparent_ask (fun _ _ => rfl) transparent_done

theorem transparent_quit (msg : String) : Transparent driver (quit msg : CameraM α) :=
  transparent_ask (fun _ _ => rfl) nofun

section Xioctl

variable {fd : Int} {request : Request}

theorem run_xioctl_settled {reply : Reply request.Arg} {world : World δ} {device : δ}
    (attempts : Nat) (asked : driver.call world.device (.ioctl fd request) = (reply, device))
    (settled : reply ≠ .fail eintr) :
    run driver.handle (xioctlLoop fd request (attempts + 1)) world =
      .returned reply { world with device := device } := by
  rw [xioctlLoop, run_sys, asked]
  cases reply with
  | done r arg => rfl
  | fail errno =>
    have other : errno ≠ eintr := fun same => settled (congrArg Reply.fail same)
    simp [other, run]

theorem run_xioctl_retry {world : World δ} {device : δ} (attempts : Nat)
    (asked : driver.call world.device (.ioctl fd request) = (Reply.fail eintr, device)) :
    run driver.handle (xioctlLoop fd request (attempts + 1)) world =
      run driver.handle (xioctlLoop fd request attempts) { world with device := device } := by
  rw [xioctlLoop, run_sys, asked]
  simp

theorem interrupted_ioctl {world : World δ} {schedule : Schedule} (early : 0 < schedule 0) :
    driver.interrupted.call (world.attach schedule).device (.ioctl fd request) =
      (Reply.fail eintr, (world.device, schedule.interrupt)) := by
  simp only [Driver.interrupted, World.attach, early, if_true]
  rfl

theorem answered_ioctl {world : World δ} {schedule : Schedule} (due : ¬ 0 < schedule 0) :
    driver.interrupted.call (world.attach schedule).device (.ioctl fd request) =
      ((driver.call world.device (.ioctl fd request)).1,
        ((driver.call world.device (.ioctl fd request)).2, schedule.later)) := by
  simp only [Driver.interrupted, World.attach, due, if_false]

theorem xioctl_answered {reply : Reply request.Arg} {world : World δ} {device : δ}
    (asked : driver.call world.device (.ioctl fd request) = (reply, device))
    (settled : reply ≠ .fail eintr) (attempts : Nat) (schedule : Schedule)
    (sparse : schedule.Sparse) (enough : schedule 0 < attempts) :
    ∃ rest : Schedule, rest.Sparse ∧
      run driver.interrupted.handle (xioctlLoop fd request attempts) (world.attach schedule) =
        .returned reply (World.attach { world with device := device } rest) := by
  induction attempts generalizing schedule with
  | zero => omega
  | succ attempts ih =>
    by_cases early : 0 < schedule 0
    · have fewer : schedule.interrupt 0 < attempts := by
        simp only [Schedule.interrupt]
        omega
      obtain ⟨rest, sparse, same⟩ := ih schedule.interrupt sparse.interrupt fewer
      exact ⟨rest, sparse, (run_xioctl_retry attempts (interrupted_ioctl early)).trans same⟩
    · exists schedule.later
      apply And.intro sparse.later
      apply run_xioctl_settled attempts _ settled
      rw [answered_ioctl early, asked]
      rfl

theorem xioctl_refused {world : World δ}
    (asked : driver.call world.device (.ioctl fd request) = (Reply.fail eintr, world.device))
    (attempts : Nat) (schedule : Schedule) (sparse : schedule.Sparse) :
    ∃ rest : Schedule, rest.Sparse ∧
      run driver.interrupted.handle (xioctlLoop fd request attempts) (world.attach schedule) =
        .returned (.fail eintr) (world.attach rest) := by
  induction attempts generalizing schedule with
  | zero => exact ⟨schedule, sparse, rfl⟩
  | succ attempts ih =>
    by_cases early : 0 < schedule 0
    · obtain ⟨rest, sparse, same⟩ := ih schedule.interrupt sparse.interrupt
      exact ⟨rest, sparse, (run_xioctl_retry attempts (interrupted_ioctl early)).trans same⟩
    · obtain ⟨rest, sparse, same⟩ := ih schedule.later sparse.later
      have answered : driver.interrupted.call (world.attach schedule).device (.ioctl fd request) =
          (Reply.fail eintr, (world.device, schedule.later)) := by
        rw [answered_ioctl early, asked]
        rfl
      exact ⟨rest, sparse, (run_xioctl_retry attempts answered).trans same⟩

theorem run_xioctl_refused {world : World δ} (attempts : Nat)
    (asked : driver.call world.device (.ioctl fd request) = (Reply.fail eintr, world.device)) :
    run driver.handle (xioctlLoop fd request attempts) world = .returned (.fail eintr) world := by
  induction attempts with
  | zero => rfl
  | succ attempts ih => rw [run_xioctl_retry attempts asked, ih]

theorem transparent_xioctl (restartable : driver.Restartable) (fd : Int) (request : Request) :
    Transparent driver (xioctl fd request) := by
  intro world schedule sparse
  by_cases refused : (driver.call world.device (.ioctl fd request)).1 = Reply.fail eintr
  · have asked : driver.call world.device (.ioctl fd request) = (Reply.fail eintr, world.device) :=
      Prod.ext refused (restartable world.device fd request refused)
    obtain ⟨rest, sparse, same⟩ := xioctl_refused asked 100 schedule sparse
    exact ⟨rest, sparse, same.trans (by rw [xioctl, run_xioctl_refused 100 asked]; rfl)⟩
  · obtain ⟨rest, sparse, same⟩ := xioctl_answered rfl refused 100 schedule sparse (sparse 0)
    exact ⟨rest, sparse, same.trans (by rw [xioctl, run_xioctl_settled 99 rfl refused]; rfl)⟩

end Xioctl

theorem transparent_checkCapability (restartable : driver.Restartable) (fd : Int) :
    Transparent driver (checkCapability fd) := by
  apply transparent_bind (transparent_xioctl restartable fd .querycap)
  intro reply
  cases reply with
  | fail errno => exact transparent_quit _
  | done r cap =>
    show Transparent driver (if _ then _ else if _ then _ else _)
    split_ifs
    · exact transparent_quit _
    · exact transparent_quit _
    · exact transparent_done _

theorem transparent_resetCrop (restartable : driver.Restartable) (fd : Int) :
    Transparent driver (resetCrop fd) := by
  apply transparent_bind (transparent_xioctl restartable fd _)
  intro reply
  match reply with
  | .done 0 answer =>
    exact transparent_bind (transparent_xioctl restartable fd _) fun _ => transparent_done _
  | .done (_ + 1) answer => exact transparent_done _
  | .fail errno => exact transparent_done _

theorem transparent_requestFormat (restartable : driver.Restartable) (camera : Camera) :
    Transparent driver (requestFormat camera) := by
  apply transparent_bind (transparent_xioctl restartable camera.fd _)
  intro reply
  cases reply with
  | fail errno => exact transparent_quit _
  | done r answer => exact transparent_done _

theorem transparent_requestBuffers (restartable : driver.Restartable) (camera : Camera) :
    Transparent driver (requestBuffers camera) := by
  apply transparent_bind (transparent_xioctl restartable camera.fd _)
  intro reply
  cases reply with
  | fail errno => exact transparent_quit _
  | done r answer =>
    apply transparent_bind (transparent_store _)
    intro _
    exact transparent_done _

theorem transparent_mapBuffer (restartable : driver.Restartable) (index bufMax : Nat) :
    Transparent driver (mapBuffer index bufMax) := by
  apply transparent_bind transparent_load
  intro camera
  apply transparent_bind (transparent_xioctl restartable camera.fd _)
  intro reply
  cases reply with
  | fail errno => exact transparent_quit _
  | done r buf =>
    apply transparent_bind transparent_load
    intro camera
    apply transparent_bind (transparent_store _)
    intro _
    apply transparent_bind (transparent_mmap _ _ _)
    intro start
    cases start with
    | none => exact transparent_quit _
    | some start =>
      apply transparent_bind transparent_load
      intro camera
      apply transparent_bind (transparent_store _)
      intro _
      exact transparent_done _

theorem transparent_mapBuffers (restartable : driver.Restartable) (remaining : Nat)
    (index bufMax : Nat) : Transparent driver (mapBuffers index bufMax remaining) := by
  induction remaining generalizing index bufMax with
  | zero => exact transparent_done _
  | succ remaining ih =>
    apply transparent_bind (transparent_mapBuffer restartable index bufMax)
    intro next
    exact ih (index + 1) next

theorem transparent_cameraInit (restartable : driver.Restartable) :
    Transparent driver cameraInit := by
  apply transparent_bind transparent_load
  intro camera
  apply transparent_bind (transparent_checkCapability restartable _)
  intro _
  apply transparent_bind (transparent_resetCrop restartable _)
  intro _
  apply transparent_bind (transparent_requestFormat restartable _)
  intro _
  apply transparent_bind (transparent_requestBuffers restartable _)
  intro count
  apply transparent_bind (transparent_mapBuffers restartable count 0 0)
  intro bufMax
  apply transparent_bind transparent_load
  intro camera
  exact transparent_store _

theorem transparent_queueBuffers (restartable : driver.Restartable) (fd : Int) (remaining : Nat)
    (index : Nat) : Transparent driver (queueBuffers fd index remaining) := by
  induction remaining generalizing index with
  | zero => exact transparent_done _
  | succ remaining ih =>
    apply transparent_bind (transparent_xioctl restartable fd _)
    intro reply
    cases reply with
    | fail errno => exact transparent_quit _
    | done r arg => exact ih (index + 1)

theorem transparent_cameraStart (restartable : driver.Restartable) :
    Transparent driver cameraStart := by
  apply transparent_bind transparent_load
  intro camera
  apply transparent_bind (transparent_queueBuffers restartable _ _ _)
  intro _
  apply transparent_bind (transparent_xioctl restartable camera.fd _)
  intro reply
  cases reply with
  | fail errno => exact transparent_quit _
  | done r arg => exact transparent_done _

theorem transparent_cameraStop (restartable : driver.Restartable) :
    Transparent driver cameraStop := by
  apply transparent_bind transparent_load
  intro camera
  apply transparent_bind (transparent_xioctl restartable camera.fd _)
  intro reply
  cases reply with
  | fail errno => exact transparent_quit _
  | done r arg => exact transparent_done _

theorem transparent_cameraCapture (restartable : driver.Restartable) :
    Transparent driver cameraCapture := by
  apply transparent_bind transparent_load
  intro camera
  apply transparent_bind (transparent_xioctl restartable camera.fd _)
  intro reply
  cases reply with
  | fail errno => exact transparent_done _
  | done r buf =>
    apply transparent_bind (transparent_memcpy _ _)
    intro _
    apply transparent_bind transparent_load
    intro camera
    apply transparent_bind (transparent_store _)
    intro _
    apply transparent_bind (transparent_xioctl restartable _ _)
    intro reply
    cases reply with
    | fail errno => exact transparent_done _
    | done r arg => exact transparent_done _

end Uvc
