import LinuxTutorial.Uvc.Picture

set_option autoImplicit false

namespace Uvc

open Interaction Device

-- What a device grants that has the capture interface and buffers; cropping it need not have.
def Obliges (device : Device) : (request : Request) → Reply request.Arg → Prop
  | .querycap, .done _ cap =>
    cap.capabilities &&& capVideoCapture ≠ 0 ∧ cap.capabilities &&& capStreaming ≠ 0
  | .cropcap _, _ | .sCrop _, _ => True
  | .reqbufs _, .done _ answer => 0 < answer.count.toNat
  -- there is a frame for every buffer that is queued
  | .dqbuf _, .fail _ => ∀ index ∈ device.queued, device.granted ≤ index
  | _, .done _ _ => True
  | _, .fail _ => False

def Willing (before : Device) : (call : SysCall) → call.Answer → Prop
  | .open _, fd => Option.isSome (α := Int) fd
  | .ioctl _ request, reply => Obliges before request reply
  | .select _ _, selected => selected = SelectReply.ready
  | .mmap _ _ _, start => Option.isSome (α := Mapping) start
  | .munmap _ _, _ => True
  | .close _, closed => closed = true

def Serves (before : Device) (call : SysCall) (answer : call.Answer) (after : Device) : Prop :=
  V4l2 before call answer after ∧ Willing before call answer

abbrev willingRespond : Respond Op Op.Answer (World Device) := respond Serves Device.contents

theorem willing_v4l2 (before : World Device) (op : Op) (answer : op.Answer) (after : World Device)
    (answered : willingRespond before op answer after) : v4l2Respond before op answer after := by
  cases op with
  | sys call => exact ⟨answered.1.1, answered.2⟩
  | load | store | memcpy | exit => exact answered

def Answered (op : Op) (world : World Device) : Prop :=
  (∀ msg, op ≠ .exit msg) ∧
    ∀ index length, op = .memcpy index length → CopyInBounds world.camera index length

variable {width height : UInt32} {count : Nat} {world : World Device}

theorem answered_sys (call : SysCall) (world : World Device) : Answered (.sys call) world := by
  simp [Answered]

theorem answered_load (world : World Device) : Answered .load world := by simp [Answered]

theorem answered_store (camera : Camera) (world : World Device) :
    Answered (.store camera) world := by simp [Answered]

theorem always_obliged {fd : Int} {request : Request}
    {post : Reply request.Arg → World Device → Prop}
    (unfailing : ∀ errno, ¬ Obliges world.device request (.fail errno))
    (completed : ∀ r arg device, V4l2Ioctl world.device request (.done r arg) device →
      Obliges world.device request (.done r arg) →
        post (.done r arg) { world with device := device }) :
    Always willingRespond Answered post (xioctl fd request) world := by
  refine always_sys (answered_sys _ _) fun reply device answered => ?_
  cases reply with
  | fail errno => exact absurd answered.2 (unfailing errno)
  | done r arg => exact completed r arg device answered.1 answered.2

theorem always_granted {kept : World Device → Prop} (stable : Stable kept) (holds : kept world)
    (fd : Int) (request : Request)
    (unfailing : ∀ device errno, ¬ Obliges device request (.fail errno))
    (plain : ∀ before r arg after, V4l2Ioctl before request (.done r arg) after →
      Quiet before after) :
    Always willingRespond Answered
      (fun reply after => kept after ∧ ∃ device, Obliges device request reply)
      (xioctl fd request) world := by
  refine always_obliged (unfailing _) fun r arg device answered obliged => ?_
  exact ⟨stable world device holds (plain _ _ _ _ answered), world.device, obliged⟩

theorem always_refusable {kept : World Device → Prop} (stable : Stable kept) (holds : kept world)
    (fd : Int) (request : Request)
    (plain : ∀ before reply after, V4l2Ioctl before request reply after → Quiet before after) :
    Always willingRespond Answered (fun _ => kept) (xioctl fd request) world := by
  refine always_xioctl_within ?_ holds (fun world _ => answered_sys _ world) ?_ ?_
  · intro world errno device holds answered
    exact stable world device holds (plain _ (.fail errno) _ answered.1)
  · intro errno last holds
    exact holds
  · intro r arg last device holds answered
    exact stable last device holds (plain _ _ _ answered.1)

def Served (count : Nat) (world : World Device) : Prop := world.device.delivered.length = count

theorem served_stable (count : Nat) : Stable (Served count) := fun _ _ served quiet =>
  (congrArg List.length quiet.delivered).trans served

structure Primed (count : Nat) (world : World Device) : Prop where
  served : Served count world
  granted : 0 < world.device.granted
  buffers : 0 < world.camera.bufferCount

theorem primed_stable (count : Nat) : Stable (Primed count) := fun world device primed quiet =>
  ⟨served_stable count world device primed.served quiet, quiet.granted.symm ▸ primed.granted,
    primed.buffers⟩

def Feeding (device : Device) : Prop := ∃ index ∈ device.queued, index < device.granted

structure Fed (count : Nat) (world : World Device) : Prop where
  served : Served count world
  feeding : Feeding world.device

theorem fed_stable (count : Nat) : Stable (Fed count) := fun world device fed quiet => by
  refine ⟨served_stable count world device fed.served quiet, ?_⟩
  rw [Feeding, quiet.queued, quiet.granted]
  exact fed.feeding

theorem Fed.frame (fed : Fed count world) {request : V4l2Buffer} (errno : Nat) :
    ¬ Obliges world.device (.dqbuf request) (.fail errno) := by
  intro beyond
  obtain ⟨index, queued, valid⟩ := fed.feeding
  exact absurd valid (Nat.not_lt.mpr (beyond index queued))

theorem willing_cameraOpen (device : String) (width height : UInt32)
    (served : Served count world) :
    Always willingRespond Answered (fun _ => Served count) (cameraOpen device width height)
      world := by
  refine always_sys (answered_sys _ _) fun answer device answered => ?_
  have served := served_stable count world device served answered.1
  cases answer with
  | none => cases answered.2
  | some fd => exact always_store (answered_store _ _) served

theorem willing_checkCapability (served : Served count world) (fd : Int) :
    Always willingRespond Answered (fun _ => Served count) (checkCapability fd) world := by
  have asked := always_granted (served_stable count) served fd .querycap (fun _ _ => id)
    fun _ _ _ _ quiet => quiet
  refine always_bind asked fun reply last after => ?_
  obtain ⟨served, device, obliged⟩ := after
  cases reply with
  | fail errno => exact absurd obliged id
  | done r cap =>
    simp only [obliged.1, obliged.2, if_false]
    exact served

theorem willing_resetCrop (served : Served count world) (fd : Int) :
    Always willingRespond Answered (fun _ => Served count) (resetCrop fd) world := by
  have stable := served_stable count
  have quiet (request : Request)
      (crops : (∃ arg, request = .cropcap arg) ∨ ∃ arg, request = .sCrop arg) (before : Device)
      (reply : Reply request.Arg) (after : Device)
      (answered : V4l2Ioctl before request reply after) : Quiet before after := by
    rcases crops with ⟨arg, rfl⟩ | ⟨arg, rfl⟩ <;> cases reply <;> exact answered
  refine always_bind (always_refusable stable served _ _ (quiet _ (.inl ⟨_, rfl⟩))) ?_
  intro reply last served
  match reply with
  | .done 0 answer =>
    exact always_bind (always_refusable stable served _ _ (quiet _ (.inr ⟨_, rfl⟩)))
      fun _ _ served => served
  | .done (_ + 1) answer => exact served
  | .fail errno => exact served

theorem willing_requestFormat (served : Served count world) (camera : Camera) :
    Always willingRespond Answered (fun _ => Served count) (requestFormat camera) world := by
  refine always_bind (always_granted (served_stable count) served _ _ (fun _ _ => id)
    fun _ _ _ _ quiet => quiet) fun reply last after => ?_
  obtain ⟨served, device, obliged⟩ := after
  cases reply with
  | fail errno => exact absurd obliged id
  | done r answer => exact served

theorem willing_requestBuffers (served : Served count world) (camera : Camera) :
    Always willingRespond Answered (fun _ => Primed count) (requestBuffers camera) world := by
  have asked : Always willingRespond Answered
      (fun reply after => ∃ r, ∃ answer : RequestBuffers, reply = .done r answer ∧
        Served count after ∧ 0 < after.device.granted ∧ 0 < answer.count.toNat)
      (xioctl camera.fd (.reqbufs
        { count := 4, type := bufTypeVideoCapture, memory := memoryMmap })) world := by
    refine always_obliged (fun _ => id) fun r answer device granted some => ?_
    have granted : Granted world.device device answer.count.toNat := granted
    exact ⟨r, answer, rfl, (congrArg List.length granted.delivered).trans served,
      granted.granted.symm ▸ some, some⟩
  refine always_bind asked fun reply last after => ?_
  obtain ⟨r, answer, rfl, served, granted, some⟩ := after
  exact always_store (answered_store _ _) ⟨served, granted, some⟩

theorem willing_mapBuffer (primed : Primed count world) (index bufMax : Nat) :
    Always willingRespond Answered (fun _ => Primed count) (mapBuffer index bufMax) world := by
  have stable := primed_stable count
  refine always_load (answered_load _) (always_bind (always_granted stable primed _ _
    (fun _ _ => id) fun _ _ _ _ answered => answered.2.2) fun reply last after => ?_)
  obtain ⟨primed, device, obliged⟩ := after
  cases reply with
  | fail errno => exact absurd obliged id
  | done r buf =>
    refine always_load (answered_load _) (always_store (answered_store _ _)
      (always_sys (answered_sys _ _) fun start device answered => ?_))
    cases start with
    | none => cases answered.2
    | some start =>
      have mapped := stable _ device ⟨primed.served, primed.granted, primed.buffers⟩ answered.1.2
      exact always_load (answered_load _) (always_store (answered_store _ _)
        ⟨mapped.served, mapped.granted, mapped.buffers⟩)

theorem willing_mapBuffers (remaining : Nat) (primed : Primed count world) (index bufMax : Nat) :
    Always willingRespond Answered (fun _ => Primed count) (mapBuffers index bufMax remaining)
      world := by
  induction remaining generalizing index bufMax world with
  | zero => exact primed
  | succ remaining ih =>
    refine always_bind (willing_mapBuffer primed index bufMax) fun next last primed => ?_
    exact ih primed (index + 1) next

theorem willing_cameraInit (served : Served count world) :
    Always willingRespond Answered (fun _ => Primed count) cameraInit world := by
  refine always_load (answered_load _) (always_bind (willing_checkCapability served _) ?_)
  intro _ _ served
  refine always_bind (willing_resetCrop served _) fun _ _ served => ?_
  refine always_bind (willing_requestFormat served _) fun _ _ served => ?_
  refine always_bind (willing_requestBuffers served _) fun granted _ primed => ?_
  refine always_bind (willing_mapBuffers granted primed 0 0) fun _ last primed => ?_
  exact always_load (answered_load _) (always_store (answered_store _ _)
    ⟨primed.served, primed.granted, primed.buffers⟩)

theorem willing_queue (served : Served count world) (fd : Int) (buf : V4l2Buffer)
    (feeds : buf.index.toNat < world.device.granted ∨ Feeding world.device) :
    Always willingRespond Answered
      (fun reply after => Fed count after ∧ ∃ r arg, reply = .done r arg)
      (xioctl fd (.qbuf buf)) world := by
  refine always_obliged (fun _ => id) fun r arg device queued _ => ?_
  have queued : Queued world.device device buf.index.toNat := queued
  refine ⟨⟨(congrArg List.length queued.delivered).trans served, ?_⟩, r, arg, rfl⟩
  show ∃ index ∈ device.queued, index < device.granted
  rw [queued.queued, queued.granted]
  rcases feeds with valid | ⟨index, already, valid⟩
  · exact ⟨_, Finset.mem_insert_self _ _, valid⟩
  · exact ⟨index, Finset.mem_insert_of_mem already, valid⟩

theorem willing_queueBuffers (remaining : Nat) (fed : Fed count world) (fd : Int) (index : Nat) :
    Always willingRespond Answered (fun _ => Fed count) (queueBuffers fd index remaining)
      world := by
  induction remaining generalizing index world with
  | zero => exact fed
  | succ remaining ih =>
    refine always_bind (willing_queue fed.served fd _ (.inr fed.feeding)) fun reply last after => ?_
    obtain ⟨fed, r, arg, rfl⟩ := after
    exact ih fed (index + 1)

theorem willing_queueAll (primed : Primed count world) :
    Always willingRespond Answered (fun _ => Fed count)
      (queueBuffers world.camera.fd 0 world.camera.bufferCount) world := by
  obtain ⟨rest, some⟩ := Nat.exists_eq_succ_of_ne_zero (Nat.ne_of_gt primed.buffers)
  rw [some]
  refine always_bind (willing_queue primed.served _ _ (.inl primed.granted)) ?_
  intro reply last after
  obtain ⟨fed, r, arg, rfl⟩ := after
  exact willing_queueBuffers rest fed _ 1

theorem willing_cameraStart (primed : Primed count world) :
    Always willingRespond Answered (fun _ => Fed count) cameraStart world := by
  refine always_load (answered_load _) (always_bind (willing_queueAll primed) fun _ _ fed => ?_)
  refine always_bind (always_granted (fed_stable count) fed _ _ (fun _ _ => id)
    fun _ _ _ _ quiet => quiet) fun reply last after => ?_
  obtain ⟨fed, device, obliged⟩ := after
  cases reply with
  | fail errno => exact absurd obliged id
  | done r arg => exact fed

theorem willing_prepare (width height : UInt32) (served : Served count world) :
    Always willingRespond Answered (fun _ => Fed count) (prepare width height) world := by
  refine always_bind (willing_cameraOpen _ width height served) fun _ _ served => ?_
  refine always_bind (willing_cameraInit served) fun _ _ primed => ?_
  exact willing_cameraStart primed

-- The buffer that was taken goes back, so that the queue is never found empty.
theorem willing_cameraCapture (ring : Ring world) (fed : Fed count world) :
    Always willingRespond Answered (fun _ => Fed (count + 1)) cameraCapture world := by
  have taken : Always willingRespond Answered
      (fun reply after => ∃ r, ∃ buf : V4l2Buffer, reply = .done r buf ∧
        Served (count + 1) after ∧ buf.index.toNat < after.device.granted ∧
          CopyInBounds after.camera buf.index.toNat buf.bytesused.toNat)
      (xioctl world.camera.fd (.dqbuf (captureBuffer 0))) world := by
    refine always_obliged fed.frame fun r buf device dequeued _ => ?_
    have dequeued : Dequeued world.device device buf.index.toNat buf.bytesused.toNat := dequeued
    have valid : buf.index.toNat < device.granted := dequeued.granted.symm ▸ dequeued.valid
    have bound : buf.bytesused.toNat ≤ (device.length buf.index.toNat).toNat :=
      dequeued.length.symm ▸ dequeued.bound
    have more : device.delivered.length = count + 1 := by
      rw [dequeued.delivered, List.length_append, fed.served]
      rfl
    exact ⟨r, buf, rfl, more, valid,
      ring_copyInBounds (ring_keeps ring dequeued.toKeeps) valid bound⟩
  refine always_load (answered_load _) (always_bind taken fun reply last after => ?_)
  obtain ⟨r, buf, rfl, served, valid, inside⟩ := after
  have copies : Answered (.memcpy buf.index.toNat buf.bytesused.toNat) last := by
    refine ⟨by simp, fun index length same => ?_⟩
    cases same
    exact inside
  refine always_memcpy copies fun camera copied => ?_
  have returned (fd : Int) (changed : Camera) : Always willingRespond Answered
      (fun reply after => Fed (count + 1) after ∧ ∃ r arg, reply = .done r arg)
      (xioctl fd (.qbuf buf)) { last with camera := changed } :=
    @willing_queue _ { last with camera := changed } served fd buf (.inl valid)
  refine always_load (answered_load _) (always_store (answered_store _ _) ?_)
  refine always_bind (returned _ _) fun reply later after => ?_
  obtain ⟨fed, r, arg, rfl⟩ := after
  exact fed

variable {start : List (List UInt8)}

theorem willing_cameraFrame (timeout : Timeval) (exposed : Exposed width height start world)
    (fed : Fed count world) :
    Always willingRespond Answered
      (fun _ after => Exposed width height start after ∧ Fed (count + 1) after)
      (cameraFrame timeout) world := by
  have framed : Always willingRespond Answered (fun _ => Fed (count + 1)) (cameraFrame timeout)
      world := by
    refine always_load (answered_load _) (always_sys (answered_sys _ _) ?_)
    intro selected device answered
    obtain rfl : selected = .ready := answered.2
    have ring := ring_keeps exposed.ring answered.1.toKeeps
    exact willing_cameraCapture ring (fed_stable count world device fed answered.1)
  exact (((always_cameraFrame timeout exposed).narrow willing_v4l2).and framed).weaken
    (fun _ _ both => both.2) (fun _ _ both => both)

theorem willing_skipFrames (timeout : Timeval) (skipped : Nat)
    (exposed : Exposed width height start world) (fed : Fed count world) :
    Always willingRespond Answered
      (fun _ after => Exposed width height start after ∧ Fed (count + skipped) after)
      (skipFrames timeout skipped) world := by
  induction skipped generalizing count world with
  | zero => exact ⟨exposed, fed⟩
  | succ skipped ih =>
    refine always_bind (willing_cameraFrame timeout exposed fed) fun _ last after => ?_
    have later := ih after.1 after.2
    rwa [Nat.add_right_comm] at later

theorem willing_mainCapture (width height : UInt32) (served : Served count world) :
    Always willingRespond Answered (fun _ => Served (count + 6)) (mainCapture width height)
      world := by
  have prepared := (((always_prepare width height world).narrow willing_v4l2).and
    (willing_prepare width height served)).weaken (fun _ _ both => both.2) (fun _ _ both => both)
  refine always_bind prepared fun _ last after => ?_
  refine always_bind (willing_skipFrames _ 5 (ready_exposed after.1) after.2) fun _ last after => ?_
  refine always_bind (willing_cameraFrame _ after.1 after.2) fun _ last after => ?_
  exact always_load (answered_load _) after.2.served

theorem willing_unmapBuffers (buffers : List RingBuffer) (served : Served count world) :
    Always willingRespond Answered (fun _ => Served count) (unmapBuffers buffers) world := by
  induction buffers generalizing world with
  | nil => exact served
  | cons buffer rest ih =>
    refine always_sys (answered_sys _ _) fun _ device answered => ih ?_
    exact served_stable count world device served answered.1

theorem willing_cameraStop (served : Served count world) :
    Always willingRespond Answered (fun _ => Served count) cameraStop world := by
  have stopped : Always willingRespond Answered
      (fun reply after => Served count after ∧ ∃ r arg, reply = .done r arg)
      (xioctl world.camera.fd (.streamoff bufTypeVideoCapture)) world := by
    refine always_obliged (fun _ => id) fun r arg device stopped _ => ?_
    have stopped : Stopped world.device device := stopped
    exact ⟨(congrArg List.length stopped.delivered).trans served, r, arg, rfl⟩
  refine always_load (answered_load _) (always_bind stopped fun reply last after => ?_)
  obtain ⟨served, r, arg, rfl⟩ := after
  exact served

theorem willing_cameraFinish (served : Served count world) :
    Always willingRespond Answered (fun _ => Served count) cameraFinish world := by
  refine always_load (answered_load _) (always_bind (willing_unmapBuffers _ served) ?_)
  intro _ last served
  exact always_store (answered_store _ _) served

theorem willing_cameraClose (served : Served count world) :
    Always willingRespond Answered (fun _ => Served count) cameraClose world := by
  refine always_load (answered_load _) (always_sys (answered_sys _ _) ?_)
  intro closed device answered
  obtain rfl : closed = true := answered.2
  exact served_stable count world device served answered.1

theorem willing_mainRelease (served : Served count world) :
    Always willingRespond Answered (fun _ => Served count) mainRelease world := by
  refine always_bind (willing_cameraStop served) fun _ _ served => ?_
  refine always_bind (willing_cameraFinish served) fun _ _ served => ?_
  exact willing_cameraClose served

theorem handle_answers (driver : Driver Device) (op : Op) (world : World Device)
    (answered : Answered op world) : driver.handle world op ≠ none := by
  cases op with
  | load | store | sys => simp [Driver.handle]
  | exit msg => exact absurd rfl (answered.1 msg)
  | memcpy index length =>
    obtain ⟨⟨start, size⟩, mapping, found, rfl, inside, fits⟩ := answered.2 index length rfl
    simp [Driver.handle, Camera.memcpy, found, inside, fits]

/-- With a driver that keeps to V4L2 and grants what it is asked, main comes to its conversion, and
its calls after the picture is written return. -/
theorem main_completes (width height : UInt32) (even : width.toNat % 2 = 0)
    (small : 3 * (width.toNat * height.toNat) < 2 ^ 32) (driver : Driver Device)
    (contents : driver.contents = Device.contents) {kept : Device → Prop}
    (within : ∀ device call, kept device →
      Serves device call (driver.call device call).1 (driver.call device call).2 ∧
        kept (driver.call device call).2)
    (fresh : World Device) (holds : kept fresh.device) :
    ∃ camera converted last,
      run driver.handle (mainCapture width height) fresh = .returned camera converted ∧
      run driver.handle mainRelease converted = .returned () last ∧
      ∃ frame, (framesBetween fresh converted)[5]? = some frame ∧
        (framesBetween fresh converted).length = 6 ∧
          (2 * (width.toNat * height.toNat) ≤ frame.length →
            ∀ bytes, Fills camera.head.start bytes →
              ∃ rows, frameRows bytes camera.width camera.height = some rows ∧
                LaidOut samples width.toNat height.toNat
                  (frame.take (2 * (width.toNat * height.toNat))) rows) := by
  have answers := handle_answers driver
  have served : Served fresh.device.delivered.length fresh := rfl
  obtain ⟨camera, converted, completed, count, kept⟩ :=
    (willing_mainCapture width height served).completes (contents ▸ handle_respond within) answers
      holds
  obtain ⟨_, last, released, _, _⟩ :=
    (willing_mainRelease count).completes (contents ▸ handle_respond within) answers kept
  have reached : Returns v4l2Respond (mainCapture width height) fresh camera converted :=
    returns_of_run (contents ▸ handle_respond fun device call kept =>
      ⟨(within device call kept).1.1, (within device call kept).2⟩) holds completed
  obtain ⟨rfl, rfl, history⟩ := captured_history reached
  have six : (framesBetween fresh converted).length = 6 := by
    have total : converted.device.delivered.length = fresh.device.delivered.length + 6 := count
    simp [framesBetween, total]
  obtain ⟨frame, sixth⟩ : ∃ frame, (framesBetween fresh converted)[5]? = some frame :=
    ⟨_, List.getElem?_eq_getElem (by omega)⟩
  have captured : (framesBetween fresh converted).getLast? = some frame := by
    rw [List.getLast?_eq_getElem?, six]
    exact sixth
  exact ⟨camera, converted, last, completed, released, frame, sixth, six,
    fun whole bytes fills => encodes_frame ⟨even, small⟩ history captured whole fills⟩

namespace Webcam

def Able (device : Device) : Prop := Sized device ∧ device.granted ≤ 1

theorem ioctl_able (device : Device) (request : Request) (able : Able device) :
    Obliges device request (ioctl device request).1 ∧ Able (ioctl device request).2 := by
  have kept := (ioctl_within device request able.1).2
  cases request with
  | querycap => exact ⟨⟨by decide, by decide⟩, able⟩
  | reqbufs req => exact ⟨Nat.zero_lt_one, kept, le_refl 1⟩
  | dqbuf buf =>
    by_cases available : 0 ∈ device.queued ∧ 0 < device.granted
    · refine ⟨?_, kept, ?_⟩ <;> simp only [ioctl, available, and_self, if_true]
      · trivial
      · exact able.2
    · simp only [ioctl, available, if_false]
      refine ⟨fun index queued => Nat.le_of_not_lt fun valid => available ?_, able⟩
      obtain rfl : index = 0 := by have := able.2; omega
      exact ⟨queued, valid⟩
  | qbuf | streamoff => exact ⟨trivial, kept, able.2⟩
  | sFmt | querybuf | streamon | cropcap | sCrop => exact ⟨trivial, able⟩

theorem driver_able (device : Device) (call : SysCall) (able : Able device) :
    Serves device call ((driver .ready).call device call).1 ((driver .ready).call device call).2 ∧
      Able ((driver .ready).call device call).2 := by
  have within := driver_within .ready device call able.1
  cases call with
  | ioctl fd request =>
    have asked := ioctl_able device request able
    exact ⟨⟨within.1, asked.1⟩, asked.2⟩
  | «open» | select | mmap | munmap | close => exact ⟨⟨within.1, by trivial⟩, able⟩

end Webcam

theorem main_completes_webcam :
    ∃ camera converted last,
      run (Webcam.driver .ready).handle (mainCapture 2 1) Webcam.unopened =
        .returned camera converted ∧
      run (Webcam.driver .ready).handle mainRelease converted = .returned () last ∧
      ∃ frame, (framesBetween Webcam.unopened converted)[5]? = some frame ∧
        (framesBetween Webcam.unopened converted).length = 6 ∧
          (2 * (2 * 1) ≤ frame.length → ∀ bytes, Fills camera.head.start bytes →
            ∃ rows, frameRows bytes camera.width camera.height = some rows ∧
              LaidOut samples 2 1 (frame.take (2 * (2 * 1))) rows) :=
  main_completes 2 1 (by decide) (by decide) (Webcam.driver .ready) rfl Webcam.driver_able
    Webcam.unopened ⟨Webcam.unopened_sized, Nat.zero_le 1⟩

end Uvc
