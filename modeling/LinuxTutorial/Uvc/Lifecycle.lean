import LinuxTutorial.Uvc.CompleteFrame

set_option autoImplicit false

namespace Uvc

open Interaction

structure Holdings where
  fds : List Int
  mapped : List Mapping
  streaming : Bool

-- Whether the device streams after a request that is granted; `none` where it goes on as before.
def Request.streams : Request → Option Bool
  | .streamon _ => some true
  | .streamoff _ => some false
  | _ => none

def streamsAfter (request : Request) (streaming : Bool) : Reply request.Arg → Bool
  | .fail _ => streaming
  | .done _ _ => request.streams.getD streaming

def Holdings.after (holdings : Holdings) : (call : SysCall) → call.Answer → Holdings
  | .open _, some fd => { holdings with fds := fd :: holdings.fds }
  | .ioctl _ request, reply =>
    { holdings with streaming := streamsAfter request holdings.streaming reply }
  | .mmap _ _ _, some start => { holdings with mapped := holdings.mapped ++ [start] }
  | .munmap (some start) _, _ => { holdings with mapped := holdings.mapped.erase start }
  | .close fd, true => { holdings with fds := holdings.fds.erase fd }
  | _, _ => holdings

structure Process (σ : Type) where
  holdings : Holdings
  driver : σ

-- A mapping is as long as was asked for.
def MapsWhole : (call : SysCall) → call.Answer → Prop
  | .mmap _ length _, some start => start.length = length
  | _, _ => True

def processAnswers {σ : Type} (answers : σ → (call : SysCall) → call.Answer → σ → Prop)
    (before : Process σ) (call : SysCall) (answer : call.Answer) (after : Process σ) : Prop :=
  answers before.driver call answer after.driver ∧ MapsWhole call answer ∧
    after.holdings = before.holdings.after call answer

abbrev processRespond {σ : Type} (answers : σ → (call : SysCall) → call.Answer → σ → Prop)
    (contents : σ → Mapping → List UInt8) : Respond Op Op.Answer (World (Process σ)) :=
  respond (processAnswers answers) fun process => contents process.driver

-- The requests that a device refuses while buffers are mapped, or while it does not stream.
def Request.Timely (holdings : Holdings) : Request → Prop
  | .sFmt _ | .reqbufs _ => holdings.mapped = [] ∧ holdings.streaming = false
  | .streamon _ => holdings.streaming = false
  | .streamoff _ | .dqbuf _ => holdings.streaming = true
  | .querycap | .cropcap _ | .sCrop _ | .querybuf _ | .qbuf _ => True

/-- Every call is about an open descriptor and a present mapping, and comes in its turn. -/
def Lawful {σ : Type} : Op → World (Process σ) → Prop
  | .sys (.ioctl fd request), world =>
    fd ∈ world.device.holdings.fds ∧ request.Timely world.device.holdings
  | .sys (.select fd _), world => fd ∈ world.device.holdings.fds
  | .sys (.mmap fd _ _), world =>
    fd ∈ world.device.holdings.fds ∧ world.device.holdings.streaming = false
  | .sys (.munmap start length), world =>
    world.device.holdings.streaming = false ∧
      ∃ mapping, mapping ∈ world.device.holdings.mapped ∧ start = some mapping ∧
        length = mapping.length.toNat
  | .sys (.close fd), world =>
    fd ∈ world.device.holdings.fds ∧ world.device.holdings.mapped = [] ∧
      world.device.holdings.streaming = false
  | .memcpy index _, world =>
    ∀ buffer mapping, world.camera.buffers[index]? = some buffer →
      buffer.start = some mapping → mapping ∈ world.device.holdings.mapped
  | .sys (.open _), _ | .load, _ | .store _, _ | .exit _, _ => True

-- Once from camera_init to camera_finish, with `frames` calls of camera_frame.
def cycle (timeout : Timeval) (frames : Nat) : CameraM Unit := do
  cameraInit
  cameraStart
  skipFrames timeout frames
  cameraStop
  cameraFinish

def cycles (timeout : Timeval) : List Nat → CameraM Unit
  | [] => pure ()
  | frames :: rest => do
    cycle timeout frames
    cycles timeout rest

def cameraSession (device : String) (width height : UInt32) (timeout : Timeval)
    (frames : List Nat) : CameraM Unit := do
  cameraOpen device width height
  cycles timeout frames
  cameraClose

structure Opened where
  fd : Int
  width : UInt32
  height : UInt32
  -- descriptors of the process that are not the camera's
  others : List Int

def Opened.camera (opened : Opened) : Camera :=
  { fd := opened.fd, width := opened.width, height := opened.height, bufferCount := 0
    buffers := [], head := { start := [], length := 0 } }

def Opened.holdings (opened : Opened) (mapped : List Mapping) (streaming : Bool) : Holdings :=
  { fds := opened.fd :: opened.others, mapped := mapped, streaming := streaming }

def ringOf (mapping : Mapping) : RingBuffer :=
  { start := some mapping, length := mapping.length.toNat }

section

variable {σ : Type}

/-- The ring is what is mapped, and `waiting` buffers that are not mapped yet. -/
structure Owns (opened : Opened) (mapped : List Mapping) (waiting : Nat) (streaming : Bool)
    (world : World (Process σ)) : Prop where
  fd : world.camera.fd = opened.fd
  width : world.camera.width = opened.width
  height : world.camera.height = opened.height
  count : world.camera.bufferCount = mapped.length + waiting
  buffers : world.camera.buffers = mapped.map ringOf ++ List.replicate waiting ⟨none, 0⟩
  holdings : world.device.holdings = opened.holdings mapped streaming

structure Resting (opened : Opened) (world : World (Process σ)) : Prop where
  camera : world.camera = opened.camera
  holdings : world.device.holdings = opened.holdings [] false

variable {opened : Opened} {mapped : List Mapping} {waiting : Nat} {streaming : Bool}
  {world : World (Process σ)}
  {answers : σ → (call : SysCall) → call.Answer → σ → Prop}
  {contents : σ → Mapping → List UInt8}

theorem Resting.owns (resting : Resting opened world) : Owns opened [] 0 false world := by
  constructor <;> simp [resting.camera, resting.holdings, Opened.camera]

theorem Owns.present (owns : Owns opened mapped waiting streaming world) :
    world.camera.fd ∈ world.device.holdings.fds := by
  simp [owns.fd, owns.holdings, Opened.holdings]

theorem Owns.device {process : Process σ} (owns : Owns opened mapped waiting streaming world)
    {after : Bool} (holdings : process.holdings = opened.holdings mapped after) :
    Owns opened mapped waiting after { world with device := process } where
  fd := owns.fd
  width := owns.width
  height := owns.height
  count := owns.count
  buffers := owns.buffers
  holdings := holdings

theorem always_request {fd : Int} {request : Request} (same : fd = opened.fd)
    (owns : Owns opened mapped waiting streaming world)
    (timely : request.Timely (opened.holdings mapped streaming)) :
    Always (processRespond answers contents) Lawful
      (fun reply => Owns opened mapped waiting (streamsAfter request streaming reply))
      (xioctl fd request) world := by
  subst same
  refine @always_xioctl_within _ _ _ _ _ (Owns opened mapped waiting streaming) _ _ _ ?_ owns
    ?_ ?_ ?_
  · intro world errno process owns answered
    exact owns.device (answered.2.2.trans owns.holdings)
  · intro world owns
    refine ⟨owns.fd ▸ owns.present, ?_⟩
    rw [owns.holdings]
    exact timely
  · intro errno world owns
    exact owns
  · intro r arg world process owns answered
    apply owns.device
    rw [answered.2.2, owns.holdings]
    rfl

theorem always_checkCapability_owns (owns : Owns opened mapped waiting streaming world) :
    Always (processRespond answers contents) Lawful
      (fun _ => Owns opened mapped waiting streaming) (checkCapability opened.fd) world := by
  refine always_bind (always_request rfl owns trivial) fun reply last owns => ?_
  cases reply with
  | fail errno => exact always_quit trivial
  | done r cap =>
    by_cases capture : cap.capabilities &&& capVideoCapture = 0
    · simp only [capture, if_true]
      exact always_quit trivial
    · by_cases streaming : cap.capabilities &&& capStreaming = 0
      · simp only [capture, streaming, if_false, if_true]
        exact always_quit trivial
      · simp only [capture, streaming, if_false]
        exact owns

theorem always_resetCrop_owns (owns : Owns opened mapped waiting streaming world) :
    Always (processRespond answers contents) Lawful
      (fun _ => Owns opened mapped waiting streaming) (resetCrop opened.fd) world := by
  refine always_bind (always_request rfl owns trivial) fun reply last owns => ?_
  match reply, owns with
  | .done 0 answer, owns =>
    refine always_bind (always_request rfl owns trivial) fun reply _ owns => ?_
    cases reply <;> exact owns
  | .done (_ + 1) answer, owns => exact owns
  | .fail errno, owns => exact owns

theorem always_requestFormat_owns {camera : Camera} (same : camera.fd = opened.fd)
    (owns : Owns opened [] waiting false world) :
    Always (processRespond answers contents) Lawful
      (fun _ => Owns opened [] waiting false) (requestFormat camera) world := by
  refine always_bind (always_request same owns ⟨rfl, rfl⟩) fun reply last owns => ?_
  cases reply with
  | fail errno => exact always_quit trivial
  | done r answer => exact owns

theorem always_requestBuffers_owns {camera : Camera} (fd : camera.fd = opened.fd)
    (width : camera.width = opened.width) (height : camera.height = opened.height)
    (owns : Owns opened [] waiting false world) :
    Always (processRespond answers contents) Lawful
      (fun count => Owns opened [] count false) (requestBuffers camera) world := by
  refine always_bind (always_request fd owns ⟨rfl, rfl⟩) fun reply last owns => ?_
  cases reply with
  | fail errno => exact always_quit trivial
  | done r answer =>
    refine always_store trivial ⟨fd, width, height, ?_, ?_, owns.holdings⟩
    · simp
    · rfl

theorem modify_middle {α : Type} (front : List α) (entry : α) (rest : List α) (change : α → α) :
    (front ++ entry :: rest).modify front.length change = front ++ change entry :: rest := by
  induction front with
  | nil => rfl
  | cons first front ih => simp [ih]

theorem ring_mapped {ring : List RingBuffer}
    (same : ring = mapped.map ringOf ++ List.replicate (waiting + 1) ⟨none, 0⟩) (start : Mapping) :
    (ring.modify mapped.length fun buffer =>
      { buffer with length := start.length.toNat }).modify mapped.length
        (fun buffer => { buffer with start := some start }) =
      (mapped ++ [start]).map ringOf ++ List.replicate waiting ⟨none, 0⟩ := by
  have position : mapped.length = (mapped.map ringOf).length := by simp
  rw [same, List.replicate_succ, position, modify_middle, modify_middle]
  simp [ringOf]

theorem always_mapBuffer_owns (bufMax : Nat) (owns : Owns opened mapped (waiting + 1) false world) :
    Always (processRespond answers contents) Lawful
      (fun _ after => ∃ start, Owns opened (mapped ++ [start]) waiting false after)
      (mapBuffer mapped.length bufMax) world := by
  refine always_load trivial (always_bind (always_request owns.fd owns trivial) ?_)
  intro reply last owns
  cases reply with
  | fail errno => exact always_quit trivial
  | done r buf =>
    have owns : Owns opened mapped (waiting + 1) false last := owns
    have resting : last.device.holdings.streaming = false := by rw [owns.holdings]; rfl
    refine always_load trivial (always_store trivial (always_sys ⟨owns.present, resting⟩ ?_))
    intro start process answered
    cases start with
    | none => exact always_quit trivial
    | some start =>
      obtain ⟨-, whole, holdings⟩ := answered
      have whole : start.length = buf.length := whole
      refine always_load trivial (always_store trivial ⟨start, ?_⟩)
      constructor
      · exact owns.fd
      · exact owns.width
      · exact owns.height
      · show last.camera.bufferCount = _
        simp only [owns.count, List.length_append, List.length_singleton]
        omega
      · show (last.camera.buffers.modify _ _).modify _ _ = _
        rw [← whole, ring_mapped owns.buffers]
      · show process.holdings = _
        rw [holdings]
        show Holdings.after last.device.holdings _ _ = _
        rw [owns.holdings]
        rfl

theorem always_mapBuffers_owns (remaining bufMax : Nat)
    (owns : Owns opened mapped remaining false world) :
    Always (processRespond answers contents) Lawful
      (fun _ after => ∃ mapped, Owns opened mapped 0 false after)
      (mapBuffers mapped.length bufMax remaining) world := by
  induction remaining generalizing mapped bufMax world with
  | zero => exact ⟨mapped, owns⟩
  | succ remaining ih =>
    refine always_bind (always_mapBuffer_owns bufMax owns) fun next last owns => ?_
    obtain ⟨start, owns⟩ := owns
    have rest := @ih (mapped ++ [start]) last next owns
    rwa [List.length_append, List.length_singleton] at rest

theorem always_cameraInit_owns (resting : Resting opened world) :
    Always (processRespond answers contents) Lawful
      (fun _ after => ∃ mapped, Owns opened mapped 0 false after) cameraInit world := by
  refine always_load trivial ?_
  have fd : world.camera.fd = opened.fd := by rw [resting.camera]; rfl
  have width : world.camera.width = opened.width := by rw [resting.camera]; rfl
  have height : world.camera.height = opened.height := by rw [resting.camera]; rfl
  rw [fd]
  refine always_bind (always_checkCapability_owns resting.owns) fun _ capable owns => ?_
  refine always_bind (always_resetCrop_owns owns) fun _ cropped owns => ?_
  refine always_bind (always_requestFormat_owns fd owns) fun _ formatted owns => ?_
  refine always_bind (always_requestBuffers_owns fd width height owns) fun count granted owns => ?_
  refine always_bind (always_mapBuffers_owns count 0 owns) fun bufMax last owns => ?_
  obtain ⟨mapped, owns⟩ := owns
  refine always_load trivial (always_store trivial ⟨mapped, ?_⟩)
  exact ⟨owns.fd, owns.width, owns.height, owns.count, owns.buffers, owns.holdings⟩

theorem always_queueBuffers_owns (index remaining : Nat)
    (owns : Owns opened mapped waiting streaming world) :
    Always (processRespond answers contents) Lawful
      (fun _ => Owns opened mapped waiting streaming)
      (queueBuffers opened.fd index remaining) world := by
  induction remaining generalizing index world with
  | zero => exact owns
  | succ remaining ih =>
    refine always_bind (always_request rfl owns trivial) fun reply last owns => ?_
    cases reply with
    | fail errno => exact always_quit trivial
    | done r arg => exact ih (index + 1) owns

theorem always_cameraStart_owns (owns : Owns opened mapped 0 false world) :
    Always (processRespond answers contents) Lawful
      (fun _ => Owns opened mapped 0 true) cameraStart world := by
  refine always_load trivial ?_
  rw [owns.fd]
  refine always_bind (always_queueBuffers_owns 0 _ owns) fun _ queued owns => ?_
  refine always_bind (always_request rfl owns rfl) fun reply last owns => ?_
  cases reply with
  | fail errno => exact always_quit trivial
  | done r arg => exact owns

theorem always_cameraStop_owns (owns : Owns opened mapped 0 true world) :
    Always (processRespond answers contents) Lawful
      (fun _ => Owns opened mapped 0 false) cameraStop world := by
  refine always_load trivial (always_bind (always_request owns.fd owns rfl) ?_)
  intro reply last owns
  cases reply with
  | fail errno => exact always_quit trivial
  | done r arg => exact owns

theorem Owns.memcpy {index length : Nat} (owns : Owns opened mapped 0 streaming world) :
    Lawful (.memcpy index length) world := by
  intro buffer mapping found start
  rw [owns.buffers, List.replicate_zero, List.append_nil, List.getElem?_map] at found
  obtain ⟨present, known, rfl⟩ := Option.map_eq_some_iff.mp found
  obtain rfl : present = mapping := by simpa [ringOf] using start
  rw [owns.holdings]
  exact List.mem_of_getElem? known

theorem Owns.copied {index length : Nat} {copy : Mapping → List UInt8} {camera : Camera}
    (owns : Owns opened mapped waiting streaming world)
    (copied : world.camera.memcpy copy index length = some camera) :
    Owns opened mapped waiting streaming { world with camera := camera } := by
  unfold Camera.memcpy at copied
  split at copied
  · split_ifs at copied
    cases copied
    exact ⟨owns.fd, owns.width, owns.height, owns.count, owns.buffers, owns.holdings⟩
  · cases copied

theorem always_cameraCapture_owns (owns : Owns opened mapped 0 true world) :
    Always (processRespond answers contents) Lawful
      (fun _ => Owns opened mapped 0 true) cameraCapture world := by
  refine always_load trivial (always_bind (always_request owns.fd owns rfl) ?_)
  intro reply last owns
  cases reply with
  | fail errno => exact owns
  | done r buf =>
    have owns : Owns opened mapped 0 true last := owns
    refine always_memcpy owns.memcpy fun camera copied => ?_
    have owns := owns.copied copied
    refine always_load trivial (always_store trivial ?_)
    have owns : Owns opened mapped 0 true { last with camera := { camera with
        head := { camera.head with length := buf.bytesused.toNat } } } :=
      ⟨owns.fd, owns.width, owns.height, owns.count, owns.buffers, owns.holdings⟩
    refine always_bind (always_request owns.fd owns trivial) fun reply last owns => ?_
    cases reply <;> exact owns

theorem always_cameraFrame_owns (timeout : Timeval) (owns : Owns opened mapped 0 true world) :
    Always (processRespond answers contents) Lawful
      (fun _ => Owns opened mapped 0 true) (cameraFrame timeout) world := by
  refine always_load trivial (always_sys owns.present fun reply process answered => ?_)
  have owns : Owns opened mapped 0 true { world with device := process } :=
    owns.device (answered.2.2.trans owns.holdings)
  cases reply with
  | fail errno => exact always_quit trivial
  | timeout => exact owns
  | ready => exact always_cameraCapture_owns owns

theorem always_skipFrames_owns (timeout : Timeval) (count : Nat)
    (owns : Owns opened mapped 0 true world) :
    Always (processRespond answers contents) Lawful
      (fun _ => Owns opened mapped 0 true) (skipFrames timeout count) world := by
  induction count generalizing world with
  | zero => exact owns
  | succ count ih =>
    exact always_bind (always_cameraFrame_owns timeout owns) fun _ last owns => ih owns

theorem always_unmapBuffers_owns {camera : Camera} (mapped : List Mapping)
    (same : world.camera = camera)
    (holdings : world.device.holdings = opened.holdings mapped false) :
    Always (processRespond answers contents) Lawful
      (fun _ after => after.camera = camera ∧
        after.device.holdings = opened.holdings [] false)
      (unmapBuffers (mapped.map ringOf)) world := by
  induction mapped generalizing world with
  | nil => exact ⟨same, holdings⟩
  | cons mapping mapped ih =>
    have lawful : Lawful (.sys (.munmap (some mapping) mapping.length.toNat)) world := by
      simp [Lawful, holdings, Opened.holdings]
    refine always_sys lawful fun _ process answered => ih same ?_
    show process.holdings = _
    rw [answered.2.2, holdings]
    show Holdings.after _ (.munmap (some mapping) mapping.length.toNat) _ = _
    simp [Holdings.after, Opened.holdings]

theorem always_cameraFinish_owns (owns : Owns opened mapped 0 false world) :
    Always (processRespond answers contents) Lawful (fun _ => Resting opened) cameraFinish
      world := by
  refine always_load trivial ?_
  have ring : world.camera.buffers.take world.camera.bufferCount = mapped.map ringOf := by
    simp [owns.buffers, owns.count]
  rw [ring]
  refine always_bind (always_unmapBuffers_owns mapped rfl owns.holdings) fun _ last after => ?_
  obtain ⟨-, holdings⟩ := after
  refine always_store trivial ⟨?_, holdings⟩
  simp [Opened.camera, owns.fd, owns.width, owns.height]

theorem always_cycle (timeout : Timeval) (frames : Nat) (resting : Resting opened world) :
    Always (processRespond answers contents) Lawful (fun _ => Resting opened) (cycle timeout frames)
      world := by
  refine always_bind (always_cameraInit_owns resting) fun _ mapped owns => ?_
  obtain ⟨ring, owns⟩ := owns
  refine always_bind (always_cameraStart_owns owns) fun _ started owns => ?_
  refine always_bind (always_skipFrames_owns timeout frames owns) fun _ captured owns => ?_
  refine always_bind (always_cameraStop_owns owns) fun _ stopped owns => ?_
  exact always_cameraFinish_owns owns

theorem always_cycles (timeout : Timeval) (frames : List Nat) (resting : Resting opened world) :
    Always (processRespond answers contents) Lawful (fun _ => Resting opened)
      (cycles timeout frames) world := by
  induction frames generalizing world with
  | nil => exact resting
  | cons first rest ih =>
    exact always_bind (always_cycle timeout first resting) fun _ last resting => ih resting

theorem always_cameraClose_owns (resting : Resting opened world) :
    Always (processRespond answers contents) Lawful
      (fun _ after => after.device.holdings = ⟨opened.others, [], false⟩) cameraClose world := by
  have fd : world.camera.fd = opened.fd := by rw [resting.camera]; rfl
  have lawful : Lawful (.sys (.close opened.fd)) world := by
    simp [Lawful, resting.holdings, Opened.holdings]
  refine always_load trivial ?_
  rw [fd]
  refine always_sys lawful fun closed process answered => ?_
  cases closed with
  | false => exact always_quit trivial
  | true =>
    show process.holdings = _
    rw [answered.2.2, resting.holdings]
    simp [Holdings.after, Opened.holdings]

theorem always_cameraOpen_owns (device : String) (width height : UInt32) {others : List Int}
    (begins : world.device.holdings = ⟨others, [], false⟩) :
    Always (processRespond answers contents) Lawful
      (fun _ after => ∃ opened, opened.others = others ∧ Resting opened after)
      (cameraOpen device width height) world := by
  refine always_sys trivial fun answer process answered => ?_
  cases answer with
  | none => exact always_quit trivial
  | some fd =>
    refine always_store trivial ⟨⟨fd, width, height, others⟩, rfl, rfl, ?_⟩
    show process.holdings = _
    rw [answered.2.2, begins]
    rfl

theorem session_releases (answers : σ → (call : SysCall) → call.Answer → σ → Prop)
    (contents : σ → Mapping → List UInt8) (device : String) (width height : UInt32)
    (timeout : Timeval) (frames : List Nat) (world : World (Process σ))
    (quiet : world.device.holdings.mapped = [] ∧ world.device.holdings.streaming = false) :
    Always (processRespond answers contents) Lawful
      (fun _ after => after.device.holdings = world.device.holdings)
      (cameraSession device width height timeout frames) world := by
  obtain ⟨camera, ⟨⟨others, mapped, streaming⟩, driver⟩⟩ := world
  obtain ⟨rfl, rfl⟩ := quiet
  refine always_bind (always_cameraOpen_owns device width height rfl) fun _ ready resting => ?_
  obtain ⟨opened, rfl, resting⟩ := resting
  refine always_bind (always_cycles timeout frames resting) fun _ done resting => ?_
  exact always_cameraClose_owns resting

end

namespace Webcam

def process (selected : SelectReply) : Driver (Process Device) where
  call process call :=
    let reply := (driver selected).call process.driver call
    (reply.1, { holdings := process.holdings.after call reply.1, driver := reply.2 })
  contents process := Device.contents process.driver

theorem process_within (selected : SelectReply) (before : Process Device) (call : SysCall)
    (sized : Sized before.driver) :
    processAnswers V4l2 before call ((process selected).call before call).1
        ((process selected).call before call).2 ∧
      Sized ((process selected).call before call).2.driver := by
  obtain ⟨answered, after⟩ := driver_within selected before.driver call sized
  refine ⟨⟨answered, ?_, rfl⟩, after⟩
  cases call <;> trivial

end Webcam

theorem session_releases_webcam :
    ∃ last, Returns (processRespond V4l2 Device.contents)
        (cameraSession "/dev/video0" 2 1 ⟨1, 0⟩ [3, 0])
        ⟨Webcam.unopened.camera, ⟨⟨[0], [], false⟩, Webcam.unopened.device⟩⟩ () last ∧
      last.device.holdings = ⟨[0], [], false⟩ := by
  have completed : run (Webcam.process .ready).handle
      (cameraSession "/dev/video0" 2 1 ⟨1, 0⟩ [3, 0])
      ⟨Webcam.unopened.camera, ⟨⟨[0], [], false⟩, Webcam.unopened.device⟩⟩ = .returned () _ := rfl
  have returned := returns_of_run (handle_respond (Webcam.process_within .ready))
    Webcam.unopened_sized completed
  refine ⟨_, returned, ?_⟩
  exact (session_releases V4l2 Device.contents _ _ _ _ _ _ ⟨rfl, rfl⟩).returns returned

end Uvc
