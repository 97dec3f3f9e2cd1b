import LinuxTutorial.Shared.Interaction
import Mathlib.Data.List.Basic

set_option autoImplicit false

/-!
The functions of the capture side as programs over the system calls they make and over the
camera they read and write through their pointer. Allocations succeed.
-/

namespace Uvc

open Interaction

def eintr : Nat := 4

def capVideoCapture : UInt32 := 0x00000001
def capStreaming : UInt32 := 0x04000000
def bufTypeVideoCapture : UInt32 := 1
def memoryMmap : UInt32 := 1
def fieldNone : UInt32 := 1
-- the fourcc code YUYV
def pixFmtYuyv : UInt32 := 0x56595559

structure Capability where
  capabilities : UInt32

structure Rect where
  left : Int
  top : Int
  width : UInt32
  height : UInt32

structure CropCap where
  type : UInt32
  defrect : Rect

structure Crop where
  type : UInt32
  c : Rect

structure Format where
  type : UInt32
  width : UInt32
  height : UInt32
  pixelformat : UInt32
  field : UInt32
  bytesperline : UInt32

structure RequestBuffers where
  count : UInt32
  type : UInt32
  memory : UInt32

structure V4l2Buffer where
  index : UInt32
  type : UInt32
  memory : UInt32
  bytesused : UInt32
  length : UInt32
  offset : UInt32

structure Timeval where
  tvSec : Int
  tvUsec : Int

inductive Request where
  | querycap
  | cropcap (arg : CropCap)
  | sCrop (arg : Crop)
  | sFmt (arg : Format)
  | reqbufs (arg : RequestBuffers)
  | querybuf (arg : V4l2Buffer)
  | qbuf (arg : V4l2Buffer)
  | dqbuf (arg : V4l2Buffer)
  | streamon (type : UInt32)
  | streamoff (type : UInt32)

def Request.Arg : Request → Type
  | .querycap => Capability
  | .cropcap _ => CropCap
  | .sCrop _ => Crop
  | .sFmt _ => Format
  | .reqbufs _ => RequestBuffers
  | .querybuf _ | .qbuf _ | .dqbuf _ => V4l2Buffer
  | .streamon _ | .streamoff _ => UInt32

/-- Result -1 with `errno`, or a result `r` with the argument as the driver leaves it. -/
inductive Reply (Arg : Type) where
  | fail (errno : Nat)
  | done (r : Nat) (arg : Arg)

inductive SelectReply where
  | fail (errno : Nat)
  | timeout
  | ready

structure Mapping where
  offset : UInt32
  length : UInt32
  deriving DecidableEq

inductive SysCall where
  | open (device : String)
  | ioctl (fd : Int) (request : Request)
  | select (fd : Int) (timeout : Timeval)
  | mmap (fd : Int) (length offset : UInt32)
  | munmap (start : Option Mapping) (length : Nat)
  | close (fd : Int)

def SysCall.Answer : SysCall → Type
  | .open _ => Option Int
  | .ioctl _ request => Reply request.Arg
  | .select _ _ => SelectReply
  -- MAP_FAILED is none
  | .mmap _ _ _ => Option Mapping
  | .munmap _ _ => Unit
  | .close _ => Bool

/-- A byte of an allocation; `none` until something is stored there. -/
abbrev Block := List (Option UInt8)

/-- buffer_t of the ring: `none` is the null pointer that calloc leaves -/
structure RingBuffer where
  start : Option Mapping
  length : Nat

/-- buffer_t of the head: the length of the block is the size asked of malloc -/
structure HeadBuffer where
  start : Block
  length : Nat

structure Camera where
  fd : Int
  width : UInt32
  height : UInt32
  bufferCount : Nat
  buffers : List RingBuffer
  head : HeadBuffer

inductive Op where
  | load
  | store (camera : Camera)
  | memcpy (index length : Nat)
  | sys (call : SysCall)
  | exit (msg : String)

def Op.Answer : Op → Type
  | .load => Camera
  | .store _ | .memcpy _ _ => Unit
  | .sys call => call.Answer
  | .exit _ => Empty

abbrev CameraM := Prog Op Op.Answer

def load : CameraM Camera := .ask .load .done

def store (camera : Camera) : CameraM Unit := .ask (.store camera) .done

-- memcpy(camera->head.start, camera->buffers[index].start, length)
def memcpyHead (index length : Nat) : CameraM Unit := .ask (.memcpy index length) .done

def sys (call : SysCall) : CameraM call.Answer := .ask (.sys call) .done

def quit {α : Type} (msg : String) : CameraM α := .ask (.exit msg) nofun

def xioctlLoop (fd : Int) (request : Request) : Nat → CameraM (Reply request.Arg)
  | 0 => pure (.fail eintr)
  | attempts + 1 => do
    match ← sys (.ioctl fd request) with
    | .done r arg => pure (.done r arg)
    | .fail errno => if errno ≠ eintr then pure (.fail errno) else xioctlLoop fd request attempts

def xioctl (fd : Int) (request : Request) : CameraM (Reply request.Arg) :=
  xioctlLoop fd request 100

def cameraOpen (device : String) (width height : UInt32) : CameraM Unit := do
  match ← sys (.open device) with
  | none => quit "open"
  | some fd =>
    store
      { fd := fd, width := width, height := height, bufferCount := 0, buffers := []
        head := { start := [], length := 0 } }

def captureBuffer (index : Nat) : V4l2Buffer :=
  { index := UInt32.ofNat index, type := bufTypeVideoCapture, memory := memoryMmap
    bytesused := 0, length := 0, offset := 0 }

def Camera.updateBuffer (camera : Camera) (index : Nat) (update : RingBuffer → RingBuffer) :
    Camera :=
  { camera with buffers := camera.buffers.modify index update }

def mapBuffer (index : Nat) (bufMax : Nat) : CameraM Nat := do
  let camera ← load
  match ← xioctl camera.fd (.querybuf (captureBuffer index)) with
  | .fail _ => quit "VIDIOC_QUERYBUF"
  | .done _ buf =>
    let camera ← load
    store (camera.updateBuffer index fun buffer => { buffer with length := buf.length.toNat })
    match ← sys (.mmap camera.fd buf.length buf.offset) with
    | none => quit "mmap"
    | some start =>
      let camera ← load
      store (camera.updateBuffer index fun buffer => { buffer with start := some start })
      pure (if buf.length.toNat > bufMax then buf.length.toNat else bufMax)

-- for (size_t i = index; i < index + remaining; i++)
def mapBuffers (index bufMax : Nat) : Nat → CameraM Nat
  | 0 => pure bufMax
  | remaining + 1 => do
    let next ← mapBuffer index bufMax
    mapBuffers (index + 1) next remaining

def cropToDefault (fd : Int) (defrect : Rect) : CameraM Unit := do
  -- a driver without cropping answers -1, which is not an error here
  let _ ← xioctl fd (.sCrop { type := bufTypeVideoCapture, c := defrect })

def checkCapability (fd : Int) : CameraM Unit := do
  match ← xioctl fd .querycap with
  | .fail _ => quit "VIDIOC_QUERYCAP"
  | .done _ cap =>
    if cap.capabilities &&& capVideoCapture = 0 then quit "no capture"
    else if cap.capabilities &&& capStreaming = 0 then quit "no streaming"
    else pure ()

def resetCrop (fd : Int) : CameraM Unit := do
  let cropcap := { type := bufTypeVideoCapture, defrect := ⟨0, 0, 0, 0⟩ }
  match ← xioctl fd (.cropcap cropcap) with
  | .done 0 answer => cropToDefault fd answer.defrect
  | _ => pure ()

def requestFormat (camera : Camera) : CameraM Unit := do
  let format :=
    { type := bufTypeVideoCapture, width := camera.width, height := camera.height
      pixelformat := pixFmtYuyv, field := fieldNone, bytesperline := 0 }
  match ← xioctl camera.fd (.sFmt format) with
  | .fail _ => quit "VIDIOC_S_FMT"
  -- what the driver made of the request is not looked at
  | .done _ _ => pure ()

def requestBuffers (camera : Camera) : CameraM Nat := do
  let req := { count := 4, type := bufTypeVideoCapture, memory := memoryMmap }
  match ← xioctl camera.fd (.reqbufs req) with
  | .fail _ => quit "VIDIOC_REQBUFS"
  | .done _ answer =>
    let count := answer.count.toNat
    store { camera with bufferCount := count, buffers := List.replicate count ⟨none, 0⟩ }
    pure count

def cameraInit : CameraM Unit := do
  let camera ← load
  checkCapability camera.fd
  resetCrop camera.fd
  requestFormat camera
  let count ← requestBuffers camera
  let bufMax ← mapBuffers 0 0 count
  let camera ← load
  store { camera with head := { camera.head with start := List.replicate bufMax none } }

def queueBuffers (fd : Int) (index : Nat) : Nat → CameraM Unit
  | 0 => pure ()
  | remaining + 1 => do
    match ← xioctl fd (.qbuf (captureBuffer index)) with
    | .fail _ => quit "VIDIOC_QBUF"
    | .done _ _ => queueBuffers fd (index + 1) remaining

def cameraStart : CameraM Unit := do
  let camera ← load
  queueBuffers camera.fd 0 camera.bufferCount
  match ← xioctl camera.fd (.streamon bufTypeVideoCapture) with
  | .fail _ => quit "VIDIOC_STREAMON"
  | .done _ _ => pure ()

def cameraStop : CameraM Unit := do
  let camera ← load
  match ← xioctl camera.fd (.streamoff bufTypeVideoCapture) with
  | .fail _ => quit "VIDIOC_STREAMOFF"
  | .done _ _ => pure ()

def unmapBuffers : List RingBuffer → CameraM Unit
  | [] => pure ()
  | buffer :: rest => do
    sys (.munmap buffer.start buffer.length)
    unmapBuffers rest

def cameraFinish : CameraM Unit := do
  let camera ← load
  unmapBuffers (camera.buffers.take camera.bufferCount)
  store { camera with bufferCount := 0, buffers := [], head := { start := [], length := 0 } }

def cameraClose : CameraM Unit := do
  let camera ← load
  let closed : Bool ← sys (.close camera.fd)
  if closed then pure () else quit "close"

def cameraCapture : CameraM Bool := do
  let camera ← load
  match ← xioctl camera.fd (.dqbuf (captureBuffer 0)) with
  | .fail _ => pure false
  | .done _ buf =>
    memcpyHead buf.index.toNat buf.bytesused.toNat
    let camera ← load
    store { camera with head := { camera.head with length := buf.bytesused.toNat } }
    match ← xioctl camera.fd (.qbuf buf) with
    | .fail _ => pure false
    | .done _ _ => pure true

def cameraFrame (timeout : Timeval) : CameraM Bool := do
  let camera ← load
  match ← sys (.select camera.fd timeout) with
  | .fail _ => quit "select"
  | .timeout => pure false
  | .ready => cameraCapture

end Uvc
