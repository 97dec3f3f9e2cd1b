import LinuxTutorial.Uvc.Lifecycle
import LinuxTutorial.Uvc.PixelLayout

set_option autoImplicit false

namespace Uvc

open Interaction Device Blocks

-- main when the picture is written
def mainRelease : CameraM Unit := do
  cameraStop
  cameraFinish
  cameraClose

-- What main does with the camera: yuyv2rgb, fopen, jpeg and fclose stand between the two parts.
def mainProgram (width height : UInt32) : CameraM Camera := do
  let camera ← mainCapture width height
  mainRelease
  pure camera

structure Fills (block : Block) (bytes : List UInt8) : Prop where
  length : bytes.length = block.length
  stored : ∀ (index : Nat) (byte : UInt8), block[index]? = some (some byte) →
    bytes[index]? = some byte

variable {width height : UInt32} {frames : List (List UInt8)} {world : World Device}

theorem main_releases {σ : Type}
    (answers : σ → (call : SysCall) → call.Answer → σ → Prop)
    (contents : σ → Mapping → List UInt8) (width height : UInt32) (world : World (Process σ))
    (quiet : world.device.holdings.mapped = [] ∧ world.device.holdings.streaming = false) :
    Always (processRespond answers contents) Lawful
      (fun _ after => after.device.holdings = world.device.holdings)
      (mainProgram width height) world := by
  obtain ⟨camera, ⟨⟨others, mapped, streaming⟩, driver⟩⟩ := world
  obtain ⟨rfl, rfl⟩ := quiet
  have captures : Always (processRespond answers contents) Lawful
      (fun _ after => ∃ opened mapped, opened.others = others ∧ Owns opened mapped 0 true after)
      (mainCapture width height) ⟨camera, ⟨⟨others, [], false⟩, driver⟩⟩ := by
    have prepared : Always (processRespond answers contents) Lawful
        (fun _ after => ∃ opened mapped, opened.others = others ∧ Owns opened mapped 0 true after)
        (prepare width height) ⟨camera, ⟨⟨others, [], false⟩, driver⟩⟩ := by
      refine always_bind (always_cameraOpen_owns _ width height rfl) fun _ _ resting => ?_
      obtain ⟨opened, same, resting⟩ := resting
      refine always_bind (always_cameraInit_owns resting) fun _ _ owns => ?_
      obtain ⟨mapped, owns⟩ := owns
      refine (always_cameraStart_owns owns).weaken (fun _ _ lawful => lawful) ?_
      intro _ last owns
      exact ⟨opened, mapped, same, owns⟩
    refine always_bind prepared fun _ _ ready => ?_
    obtain ⟨opened, mapped, same, owns⟩ := ready
    refine always_bind (always_skipFrames_owns _ 5 owns) fun _ _ owns => ?_
    refine always_bind (always_cameraFrame_owns _ owns) fun _ _ owns => ?_
    exact always_load trivial ⟨opened, mapped, same, owns⟩
  refine always_bind captures fun camera last owns => ?_
  obtain ⟨opened, mapped, rfl, owns⟩ := owns
  have releases : Always (processRespond answers contents) Lawful
      (fun _ after => after.device.holdings = ⟨opened.others, [], false⟩) mainRelease last := by
    refine always_bind (always_cameraStop_owns owns) fun _ _ owns => ?_
    refine always_bind (always_cameraFinish_owns owns) fun _ _ resting => ?_
    exact always_cameraClose_owns resting
  exact always_bind releases fun _ _ released => released

theorem main_releases_webcam :
    ∃ camera last, Returns (processRespond V4l2 Device.contents) (mainProgram 2 1)
        ⟨Webcam.unopened.camera, ⟨⟨[0], [], false⟩, Webcam.unopened.device⟩⟩ camera last ∧
      last.device.holdings = ⟨[0], [], false⟩ := by
  have completed : run (Webcam.process .ready).handle (mainProgram 2 1)
      ⟨Webcam.unopened.camera, ⟨⟨[0], [], false⟩, Webcam.unopened.device⟩⟩ = .returned _ _ := rfl
  have returned := returns_of_run (handle_respond (Webcam.process_within .ready))
    Webcam.unopened_sized completed
  refine ⟨_, _, returned, ?_⟩
  exact (main_releases V4l2 Device.contents _ _ _ ⟨rfl, rfl⟩).returns returned

theorem frameRows_congr {one two : List UInt8}
    (same : ∀ read, read ∈ yuyvReads width height → one[read]? = two[read]?) :
    frameRows one width height = frameRows two width height := by
  rw [frameRows, frameRows, yuyv2rgb, yuyv2rgb, convertPairs_congr _ same]

theorem fills_frame {head : HeadBuffer} {frame bytes : List UInt8}
    (history : HeadHistory head frames) (last : frames.getLast? = some frame)
    (fills : Fills head.start bytes) {index : Nat} (inside : index < frame.length) :
    bytes[index]? = frame[index]? := by
  have taken := (history.last frame last).2
  have stored : head.start[index]? = some (some frame[index]) := by
    calc
      head.start[index]? = (head.start.take frame.length)[index]? := by
        rw [List.getElem?_take, if_pos inside]
      _ = some (some frame[index]) := by simp [taken, inside]
  rw [fills.stored index _ stored, List.getElem?_eq_getElem inside]

theorem encodes_frame {camera : Camera} (proper : Proper camera.width camera.height)
    (history : HeadHistory camera.head frames) {frame : List UInt8}
    (captured : frames.getLast? = some frame)
    (whole : 2 * (camera.width.toNat * camera.height.toNat) ≤ frame.length)
    {bytes : List UInt8} (fills : Fills camera.head.start bytes) :
    ∃ rows, frameRows bytes camera.width camera.height = some rows ∧
      LaidOut samples camera.width.toNat camera.height.toNat
        (frame.take (2 * (camera.width.toNat * camera.height.toNat))) rows := by
  have length : (frame.take (2 * (camera.width.toNat * camera.height.toNat))).length =
      2 * (camera.width.toNat * camera.height.toNat) := by
    rw [List.length_take]
    omega
  refine ⟨_, ?_, laidOut_pixelRows proper length⟩
  rw [← show _ = some (pixelRows _ _ _) from proper.frameRows_eq length]
  apply frameRows_congr
  intro read member
  rw [proper.reads, List.mem_range] at member
  rw [fills_frame history captured fills (by omega), List.getElem?_take, if_pos member]

theorem main_encodes_last_frame (width height : UInt32) (even : width.toNat % 2 = 0)
    (small : 3 * (width.toNat * height.toNat) < 2 ^ 32) (fresh last : World Device)
    (camera : Camera)
    (reached : Returns v4l2Respond (mainCapture width height) fresh camera last)
    (frame : List UInt8) (captured : (framesBetween fresh last).getLast? = some frame)
    (whole : 2 * (width.toNat * height.toNat) ≤ frame.length)
    (bytes : List UInt8) (fills : Fills camera.head.start bytes) :
    ∃ rows, frameRows bytes camera.width camera.height = some rows ∧
      LaidOut samples width.toNat height.toNat
        (frame.take (2 * (width.toNat * height.toNat))) rows := by
  obtain ⟨rfl, rfl, history⟩ := captured_history reached
  exact encodes_frame ⟨even, small⟩ history captured whole fills

theorem fills_map (bytes : List UInt8) : Fills (bytes.map some) bytes where
  length := by simp
  stored index byte stored := by simpa using stored

theorem main_encodes_last_frame_webcam :
    ∃ camera last, Returns v4l2Respond (mainCapture 2 1) Webcam.unopened camera last ∧
      ∃ rows, frameRows Webcam.still camera.width camera.height = some rows ∧
        LaidOut samples 2 1 (Webcam.still.take 4) rows := by
  have completed : run (Webcam.driver .ready).handle (mainCapture 2 1) Webcam.unopened =
      .returned _ _ := rfl
  have returned := Webcam.returns .ready Webcam.unopened_sized completed
  refine ⟨_, _, returned, ?_⟩
  exact main_encodes_last_frame 2 1 (by decide) (by decide) _ _ _ returned Webcam.still rfl
    (by decide) Webcam.still (fills_map Webcam.still)

end Uvc
