import LinuxTutorial.Uvc.Capture

set_option autoImplicit false

namespace Uvc

open Interaction Device

def anyOp (_ : Op) (_ : World Device) : Prop := True

/-- The camera and the history of the device before any buffer exists. -/
structure Kept (camera : Camera) (frames : List (List UInt8)) (world : World Device) : Prop where
  camera : world.camera = camera
  delivered : world.device.delivered = frames

theorem kept_stable (camera : Camera) (frames : List (List UInt8)) : Stable (Kept camera frames) :=
  fun _ _ kept quiet => ⟨kept.camera, quiet.delivered.trans kept.delivered⟩

variable {camera : Camera} {frames : List (List UInt8)} {world : World Device}

theorem always_plain {kept : World Device → Prop} (fd : Int) (request : Request)
    (stable : Stable kept) (holds : kept world)
    (plain : ∀ before r arg after, V4l2Ioctl before request (.done r arg) after →
      Quiet before after) :
    Always v4l2Respond anyOp (fun _ => kept) (xioctl fd request) world := by
  refine always_xioctl stable holds (fun _ _ => trivial) ?_ ?_
  · intro errno last kept
    exact kept
  · intro r arg last device kept answered
    exact stable last device kept (plain _ _ _ _ answered)

theorem always_checkCapability (kept : Kept camera frames world) (fd : Int) :
    Always v4l2Respond anyOp (fun _ => Kept camera frames) (checkCapability fd) world := by
  have asked := always_plain fd .querycap (kept_stable camera frames) kept
    fun _ _ _ _ quiet => quiet
  refine always_bind asked fun reply last kept => ?_
  cases reply with
  | fail errno => exact always_quit trivial
  | done r cap =>
    by_cases capture : cap.capabilities &&& capVideoCapture = 0
    · simp only [capture, if_true]
      exact always_quit trivial
    · by_cases streaming : cap.capabilities &&& capStreaming = 0
      · simp only [capture, streaming, if_false, if_true]
        exact always_quit trivial
      · simp only [capture, streaming, if_false]
        exact kept

theorem always_resetCrop (kept : Kept camera frames world) (fd : Int) :
    Always v4l2Respond anyOp (fun _ => Kept camera frames) (resetCrop fd) world := by
  have stable := kept_stable camera frames
  refine always_bind (always_plain _ _ stable kept fun _ _ _ _ quiet => quiet) fun reply last kept => ?_
  match reply with
  | .done 0 answer =>
    exact always_bind (always_plain _ _ stable kept fun _ _ _ _ quiet => quiet) fun _ _ kept => kept
  | .done (_ + 1) answer => exact kept
  | .fail errno => exact kept

theorem always_requestFormat (kept : Kept camera frames world) :
    Always v4l2Respond anyOp (fun _ => Kept camera frames) (requestFormat camera) world := by
  refine always_bind (always_plain _ _ (kept_stable camera frames) kept
    fun _ _ _ _ quiet => quiet) fun reply last kept => ?_
  cases reply with
  | fail errno => exact always_quit trivial
  | done r answer => exact kept

structure MapLoop (camera : Camera) (frames : List (List UInt8)) (count index bufMax : Nat)
    (world : World Device) : Prop where
  width : world.camera.width = camera.width
  height : world.camera.height = camera.height
  granted : world.device.granted = count
  bufferCount : world.camera.bufferCount = count
  size : world.camera.buffers.length = count
  small : count < 2 ^ 32
  mapped : ∀ done, done < index →
    world.camera.buffers[done]? = some (ringBuffer world.device done)
  bound : ∀ done, done < index → (world.device.length done).toNat ≤ bufMax
  head : world.camera.head.length = 0
  sizes : ∀ done, done < count →
    (world.device.frame done).length = (world.device.length done).toNat
  delivered : world.device.delivered = frames

variable {count index bufMax : Nat}

theorem mapLoop_stable (camera : Camera) (frames : List (List UInt8)) (count index bufMax : Nat) :
    Stable (MapLoop camera frames count index bufMax) := by
  intro world device loop quiet
  constructor
  · exact loop.width
  · exact loop.height
  · exact quiet.granted.trans loop.granted
  · exact loop.bufferCount
  · exact loop.size
  · exact loop.small
  · intro done before
    simp only [loop.mapped done before, ringBuffer, quiet.offset, quiet.length]
  · intro done before
    simpa only [quiet.length] using loop.bound done before
  · exact loop.head
  · intro done before
    have valid : done < world.device.granted := loop.granted ▸ before
    simpa only [quiet.length] using quiet.sizes done valid
  · exact quiet.delivered.trans loop.delivered

theorem mapLoop_update (loop : MapLoop camera frames count index bufMax world)
    (update : RingBuffer → RingBuffer) :
    MapLoop camera frames count index bufMax
      { world with camera := world.camera.updateBuffer index update } where
  width := loop.width
  height := loop.height
  granted := loop.granted
  bufferCount := loop.bufferCount
  size := by simpa [Camera.updateBuffer] using loop.size
  small := loop.small
  mapped done before := by
    have other : index ≠ done := by omega
    simpa [Camera.updateBuffer, List.getElem?_modify, other] using loop.mapped done before
  bound := loop.bound
  head := loop.head
  sizes := loop.sizes
  delivered := loop.delivered

theorem mapLoop_next {length : UInt32} (loop : MapLoop camera frames count index bufMax world)
    (reported : length = world.device.length index)
    (mapped : world.camera.buffers[index]? = some (ringBuffer world.device index)) :
    MapLoop camera frames count (index + 1)
      (if length.toNat > bufMax then length.toNat else bufMax) world where
  width := loop.width
  height := loop.height
  granted := loop.granted
  bufferCount := loop.bufferCount
  size := loop.size
  small := loop.small
  mapped done before := by
    rcases Nat.lt_succ_iff_lt_or_eq.mp before with earlier | rfl
    · exact loop.mapped done earlier
    · exact mapped
  bound done before := by
    rcases Nat.lt_succ_iff_lt_or_eq.mp before with earlier | rfl
    · have bound := loop.bound done earlier
      split_ifs <;> omega
    · rw [← reported]
      split_ifs <;> omega
  head := loop.head
  sizes := loop.sizes
  delivered := loop.delivered

theorem always_requestBuffers (kept : Kept camera frames world) (empty : camera.head.length = 0) :
    Always v4l2Respond anyOp (fun count => MapLoop camera frames count 0 0) (requestBuffers camera)
      world := by
  have asked : Always v4l2Respond anyOp
      (fun reply after => match reply with
        | .fail _ => True
        | .done _ (answer : RequestBuffers) => after.device.granted = answer.count.toNat ∧
          after.device.delivered = frames ∧ ∀ index, index < answer.count.toNat →
            (after.device.frame index).length = (after.device.length index).toNat)
      (xioctl camera.fd (.reqbufs
        { count := 4, type := bufTypeVideoCapture, memory := memoryMmap })) world := by
    refine always_xioctl (kept_stable camera frames) kept (fun _ _ => trivial) ?_ ?_
    · intro errno last kept
      trivial
    · intro r answer last device kept granted
      have granted : Granted last.device device answer.count.toNat := granted
      exact ⟨granted.granted, granted.delivered.trans kept.delivered, granted.sizes⟩
  refine always_bind asked fun reply last after => ?_
  cases reply with
  | fail errno => exact always_quit trivial
  | done r answer =>
    obtain ⟨granted, delivered, sizes⟩ := after
    refine always_store trivial ?_
    constructor
    · rfl
    · rfl
    · exact granted
    · rfl
    · simp
    · exact answer.count.toNat_lt
    · intro done before
      cases before
    · intro done before
      cases before
    · exact empty
    · exact sizes
    · exact delivered

theorem always_mapBuffer (loop : MapLoop camera frames count index bufMax world)
    (valid : index < count) :
    Always v4l2Respond anyOp (MapLoop camera frames count (index + 1)) (mapBuffer index bufMax)
      world := by
  have stable := mapLoop_stable camera frames count index bufMax
  have position : (captureBuffer index).index.toNat = index := by
    have small := loop.small
    simp [captureBuffer]
    omega
  have asked : Always v4l2Respond anyOp
      (fun reply after => MapLoop camera frames count index bufMax after ∧ match reply with
        | .fail _ => True
        | .done _ (buf : V4l2Buffer) => buf.length = after.device.length index ∧
          buf.offset = after.device.offset index)
      (xioctl world.camera.fd (.querybuf (captureBuffer index))) world := by
    refine always_xioctl stable loop (fun _ _ => trivial) ?_ ?_
    · intro errno last kept
      exact ⟨kept, trivial⟩
    · intro r buf last device kept answered
      obtain ⟨length, offset, quiet⟩ := answered
      rw [position] at length offset
      exact ⟨stable last device kept quiet, by rw [length, ← quiet.length],
        by rw [offset, ← quiet.offset]⟩
  refine always_load trivial (always_bind asked fun reply last after => ?_)
  cases reply with
  | fail errno => exact always_quit trivial
  | done r buf =>
    obtain ⟨kept, length, offset⟩ := after
    refine always_load trivial (always_store trivial (always_sys trivial ?_))
    intro start device answered
    obtain ⟨same, quiet⟩ := answered
    cases start with
    | none => exact always_quit trivial
    | some start =>
      have sized := mapLoop_update kept fun buffer => { buffer with length := buf.length.toNat }
      have mapped := mapLoop_update (stable _ device sized quiet)
        fun buffer => { buffer with start := some start }
      refine always_load trivial (always_store trivial (mapLoop_next mapped ?_ ?_))
      · exact length.trans (congrFun quiet.length.symm index)
      · have inside : index < last.camera.buffers.length := kept.size ▸ valid
        have quietLength := congrFun quiet.length index
        have quietOffset := congrFun quiet.offset index
        simp only [Camera.updateBuffer, List.getElem?_modify, List.getElem?_eq_getElem inside,
          ringBuffer]
        simp [same start rfl, length, offset, quietLength, quietOffset]

theorem always_mapBuffers (remaining : Nat) (loop : MapLoop camera frames count index bufMax world)
    (covers : index + remaining = count) :
    Always v4l2Respond anyOp (MapLoop camera frames count count) (mapBuffers index bufMax remaining)
      world := by
  induction remaining generalizing index bufMax world with
  | zero =>
    obtain rfl : index = count := covers
    exact loop
  | succ remaining ih =>
    refine always_bind (always_mapBuffer loop (by omega)) fun next last loop => ?_
    exact ih loop (by omega)

structure Ready (width height : UInt32) (frames : List (List UInt8)) (world : World Device) :
    Prop where
  ring : Ring world
  width : world.camera.width = width
  height : world.camera.height = height
  empty : world.camera.head.length = 0
  unwritten : ∃ capacity, world.camera.head.start = List.replicate capacity none
  delivered : world.device.delivered = frames

variable {width height : UInt32}

theorem ready_keeps {device : Device} {writable : Finset Nat}
    (ready : Ready width height frames world) (keeps : Keeps world.device device writable)
    (delivered : device.delivered = world.device.delivered) :
    Ready width height frames { world with device := device } where
  ring := ring_keeps ready.ring keeps
  width := ready.width
  height := ready.height
  empty := ready.empty
  unwritten := ready.unwritten
  delivered := delivered.trans ready.delivered

theorem ready_stable (width height : UInt32) (frames : List (List UInt8)) :
    Stable (Ready width height frames) :=
  fun _ _ ready quiet => ready_keeps ready quiet.toKeeps quiet.delivered

theorem mapLoop_ready (loop : MapLoop camera frames count count bufMax world) :
    Ready camera.width camera.height frames { world with camera := { world.camera with
      head := { world.camera.head with start := List.replicate bufMax none } } } where
  ring :=
    { count := loop.bufferCount.trans loop.granted.symm
      mapped := fun index valid => loop.mapped index (loop.granted ▸ valid)
      capacity := fun index valid => by
        simpa using loop.bound index (loop.granted ▸ valid)
      head := by simp [loop.head]
      sizes := fun index valid => loop.sizes index (loop.granted ▸ valid) }
  width := loop.width
  height := loop.height
  empty := loop.head
  unwritten := ⟨bufMax, rfl⟩
  delivered := loop.delivered

theorem always_cameraInit (kept : Kept camera frames world) (empty : camera.head.length = 0) :
    Always v4l2Respond anyOp (fun _ => Ready camera.width camera.height frames) cameraInit
      world := by
  obtain rfl := kept.camera
  refine always_load trivial (always_bind (always_checkCapability kept _) ?_)
  intro _ capable kept
  refine always_bind (always_resetCrop kept _) fun _ cropped kept => ?_
  refine always_bind (always_requestFormat kept) fun _ formatted kept => ?_
  refine always_bind (always_requestBuffers kept empty) fun count granted loop => ?_
  refine always_bind (always_mapBuffers count loop (by omega)) fun bufMax mapped loop => ?_
  exact always_load trivial (always_store trivial (mapLoop_ready loop))

theorem always_queueBuffers (ready : Ready width height frames world) (fd : Int)
    (index remaining : Nat) :
    Always v4l2Respond anyOp (fun _ => Ready width height frames) (queueBuffers fd index remaining)
      world := by
  induction remaining generalizing index world with
  | zero => exact ready
  | succ remaining ih =>
    have asked : Always v4l2Respond anyOp (fun _ => Ready width height frames)
        (xioctl fd (.qbuf (captureBuffer index))) world := by
      refine always_xioctl (ready_stable _ _ _) ready (fun _ _ => trivial) ?_ ?_
      · intro errno last kept
        exact kept
      · intro r arg last device kept answered
        have queued : Queued last.device device (captureBuffer index).index.toNat := answered
        exact ready_keeps kept queued.toKeeps queued.delivered
    refine always_bind asked fun reply last kept => ?_
    cases reply with
    | fail errno => exact always_quit trivial
    | done r arg => exact ih kept (index + 1)

theorem always_cameraStart (ready : Ready width height frames world) :
    Always v4l2Respond anyOp (fun _ => Ready width height frames) cameraStart world := by
  refine always_load trivial (always_bind (always_queueBuffers ready _ _ _) ?_)
  intro _ queued kept
  refine always_bind (always_plain _ _ (ready_stable _ _ _) kept fun _ _ _ _ quiet => quiet) ?_
  intro reply last kept
  cases reply with
  | fail errno => exact always_quit trivial
  | done r arg => exact kept

def prepare (width height : UInt32) : CameraM Unit := do
  cameraOpen "/dev/video0" width height
  cameraInit
  cameraStart

theorem always_cameraOpen (width height : UInt32) (world : World Device) :
    Always v4l2Respond anyOp
      (fun _ after => ∃ fd, Kept ⟨fd, width, height, 0, [], ⟨[], 0⟩⟩ world.device.delivered after)
      (cameraOpen "/dev/video0" width height) world := by
  refine always_sys trivial fun answer device quiet => ?_
  have quiet : Quiet world.device device := quiet
  cases answer with
  | none => exact always_quit trivial
  | some fd => exact always_store trivial ⟨fd, rfl, quiet.delivered⟩

theorem always_prepare (width height : UInt32) (world : World Device) :
    Always v4l2Respond anyOp (fun _ => Ready width height world.device.delivered)
      (prepare width height) world := by
  refine always_bind (always_cameraOpen width height world) fun _ opened kept => ?_
  obtain ⟨fd, kept⟩ := kept
  refine always_bind (always_cameraInit kept rfl) fun _ inited ready => ?_
  exact always_cameraStart ready

end Uvc
