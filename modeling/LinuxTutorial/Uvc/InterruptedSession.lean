import LinuxTutorial.Uvc.Interruption

set_option autoImplicit false

namespace Uvc

open Interaction

variable {δ α β : Type} {driver : Driver δ}

inductive Operation where
  | init
  | start
  | frame (timeout : Timeval)
  | stop

def Operation.program : Operation → CameraM (Option Bool)
  | .init => do
    cameraInit
    pure none
  | .start => do
    cameraStart
    pure none
  | .frame timeout => do
    let result ← cameraFrame timeout
    pure (some result)
  | .stop => do
    cameraStop
    pure none

def session {σ : Type} (handler : Handler Op Op.Answer σ) :
    List Operation → σ → List (Outcome Op (Option Bool) σ)
  | [], _ => []
  | operation :: rest, state =>
    match run handler operation.program state with
    | .returned value last => .returned value last :: session handler rest last
    | .halted op last => [.halted op last]

-- The driver refuses select here in any case, so that camera_frame quits as it is.
def Driver.RefusesSelect (driver : Driver δ) (world : World δ) (timeout : Timeval) : Prop :=
  ∃ errno, driver.call world.device (.select world.camera.fd timeout) =
    (SelectReply.fail errno, world.device)

-- No select is interrupted, unless the driver itself refuses it.
def Operation.Undisturbed (driver : Driver δ) (world : World (δ × Schedule)) : Operation → Prop
  | .frame timeout => world.device.2 0 = 0 ∨ driver.RefusesSelect world.erase timeout
  | _ => True

def Undisturbed (driver : Driver δ) : List Operation → World (δ × Schedule) → Prop
  | [], _ => True
  | operation :: rest, world =>
    operation.Undisturbed driver world ∧
      ∀ value last, run driver.interrupted.handle operation.program world = .returned value last →
        Undisturbed driver rest last

theorem transparent_program {operation : Operation} (restartable : driver.Restartable)
    (other : ∀ timeout, operation ≠ .frame timeout) : Transparent driver operation.program := by
  cases operation with
  | init => exact transparent_bind (transparent_cameraInit restartable) fun _ => transparent_done _
  | start => exact transparent_bind (transparent_cameraStart restartable) fun _ => transparent_done _
  | frame timeout => exact absurd rfl (other timeout)
  | stop => exact transparent_bind (transparent_cameraStop restartable) fun _ => transparent_done _

section Frame

variable {timeout : Timeval} {world : World δ} {schedule : Schedule}

def afterSelect : SelectReply → CameraM (Option Bool)
  | .fail _ => quit "select"
  | .timeout => pure (some false)
  | .ready => do
    let result ← cameraCapture
    pure (some result)

theorem run_frame (driver : Driver δ) (timeout : Timeval) (world : World δ) :
    run driver.handle (Operation.frame timeout).program world =
      run driver.handle
        (afterSelect (driver.call world.device (.select world.camera.fd timeout)).1)
        { world with device := (driver.call world.device (.select world.camera.fd timeout)).2 } := by
  rw [Operation.program, run_bind, cameraFrame, run_load, run_sys]
  obtain ⟨reply, device⟩ := driver.call world.device (.select world.camera.fd timeout)
  cases reply with
  | fail errno => rfl
  | timeout => rfl
  | ready =>
    rw [afterSelect, run_bind]

theorem transparent_afterSelect (restartable : driver.Restartable) (reply : SelectReply) :
    Transparent driver (afterSelect reply) := by
  cases reply with
  | fail errno => exact transparent_quit _
  | timeout => exact transparent_done _
  | ready =>
    exact transparent_bind (transparent_cameraCapture restartable) fun _ => transparent_done _

theorem frame_interrupted (early : 0 < schedule 0) :
    run driver.interrupted.handle (Operation.frame timeout).program (world.attach schedule) =
      .halted (.exit "select") (world.attach schedule.interrupt) := by
  have answered : driver.interrupted.call (world.attach schedule).device
      (.select (world.attach schedule).camera.fd timeout) =
        (SelectReply.fail eintr, (world.device, schedule.interrupt)) := by
    simp only [Driver.interrupted, World.attach, early, if_true]
    rfl
  rw [run_frame, answered]
  rfl

theorem frame_answered (restartable : driver.Restartable) (sparse : schedule.Sparse)
    (due : schedule 0 = 0) :
    ∃ rest : Schedule, rest.Sparse ∧
      run driver.interrupted.handle (Operation.frame timeout).program (world.attach schedule) =
        (run driver.handle (Operation.frame timeout).program world).onState (·.attach rest) := by
  let reply := driver.call world.device (.select world.camera.fd timeout)
  have answered : driver.interrupted.call (world.attach schedule).device
      (.select (world.attach schedule).camera.fd timeout) =
        (reply.1, (reply.2, schedule.later)) := by
    simp only [Driver.interrupted, World.attach, due, lt_irrefl, if_false]
    rfl
  obtain ⟨rest, sparse, same⟩ := transparent_afterSelect restartable reply.1
    { world with device := reply.2 } schedule.later sparse.later
  refine ⟨rest, sparse, ?_⟩
  rw [run_frame, run_frame, answered]
  exact same

theorem frame_refused (refuses : driver.RefusesSelect world timeout) :
    run driver.handle (Operation.frame timeout).program world = .halted (.exit "select") world := by
  obtain ⟨errno, asked⟩ := refuses
  rw [run_frame, asked]
  rfl

end Frame

theorem xioctl_never_quits {σ : Type} (fd : Int) (request : Request) (attempts : Nat) (state : σ) :
    Always (fun _ _ _ _ => True) (fun (op : Op) _ => ∀ msg, op ≠ .exit msg) (fun _ _ => True)
      (xioctlLoop fd request attempts) state := by
  induction attempts generalizing state with
  | zero => trivial
  | succ attempts ih =>
    refine ⟨nofun, fun reply last _ => ?_⟩
    cases reply with
    | done r arg => trivial
    | fail errno =>
      show Always _ _ _ (if _ then _ else _) last
      split_ifs
      · trivial
      · exact ih last

theorem capture_never_quits {σ : Type} (state : σ) :
    Always (fun _ _ _ _ => True) (fun (op : Op) _ => ∀ msg, op ≠ .exit msg) (fun _ _ => True)
      cameraCapture state := by
  refine ⟨nofun, fun camera last _ => ?_⟩
  show Always _ _ _ (xioctl camera.fd (.dqbuf (captureBuffer 0)) >>= _) last
  apply always_bind (xioctl_never_quits camera.fd _ 100 last)
  intro reply last _
  cases reply with
  | fail errno => trivial
  | done r buf =>
    refine ⟨nofun, fun _ last _ => ⟨nofun, fun camera last _ => ⟨nofun, fun _ last _ => ?_⟩⟩⟩
    show Always _ _ _ (xioctl camera.fd (.qbuf buf) >>= _) last
    apply always_bind (xioctl_never_quits camera.fd _ 100 last)
    intro reply last _
    cases reply <;> trivial

theorem frame_quits {timeout : Timeval} {world : World δ}
    (stopped : run driver.handle (Operation.frame timeout).program world =
      .halted (.exit "select") world) : driver.RefusesSelect world timeout := by
  rw [run_frame] at stopped
  rcases asked : driver.call world.device (.select world.camera.fd timeout) with ⟨reply, device⟩
  rw [asked] at stopped
  cases reply with
  | fail errno =>
    exists errno
    injection stopped with _ same
    exact asked.trans (congrArg (fun last : World δ => (SelectReply.fail errno, last.device)) same)
  | timeout => cases stopped
  | ready =>
    have never : Always (fun _ _ _ _ => True) (fun (op : Op) _ => ∀ msg, op ≠ .exit msg)
        (fun _ _ => True) (afterSelect .ready) { world with device := device } :=
      always_bind (capture_never_quits _) fun _ _ _ => trivial
    exact absurd rfl (never.halted (fun _ _ _ _ _ => trivial) stopped "select")

theorem operation_same {operation : Operation} {world : World δ} {schedule : Schedule}
    (restartable : driver.Restartable) (sparse : schedule.Sparse)
    (undisturbed : operation.Undisturbed driver (world.attach schedule)) :
    ∃ rest : Schedule, rest.Sparse ∧
      run driver.interrupted.handle operation.program (world.attach schedule) =
        (run driver.handle operation.program world).onState (·.attach rest) := by
  cases operation with
  | frame timeout =>
    by_cases due : schedule 0 = 0
    · exact frame_answered restartable sparse due
    · have early : 0 < schedule 0 := by omega
      have refuses : driver.RefusesSelect world timeout := by
        rcases undisturbed with answered | refuses
        · exact absurd answered due
        · exact refuses
      exists schedule.interrupt
      apply And.intro sparse.interrupt
      rw [frame_interrupted early, frame_refused refuses]
      rfl
  | init | start | stop =>
    exact transparent_program restartable (by simp) world schedule sparse

theorem operation_differs {operation : Operation} {world : World δ} {schedule : Schedule}
    (disturbed : ¬ operation.Undisturbed driver (world.attach schedule)) :
    run driver.interrupted.handle operation.program (world.attach schedule) =
        .halted (.exit "select") (world.attach schedule.interrupt) ∧
      run driver.handle operation.program world ≠ .halted (.exit "select") world := by
  cases operation with
  | frame timeout =>
    obtain ⟨interrupted, accepts⟩ := not_or.mp disturbed
    have early : 0 < schedule 0 := Nat.pos_of_ne_zero interrupted
    exact ⟨frame_interrupted early, fun stopped => accepts (frame_quits stopped)⟩
  | init | start | stop => exact absurd trivial disturbed

theorem session_unchanged_iff_undisturbed (driver : Driver δ) (restartable : driver.Restartable)
    (operations : List Operation) (world : World δ) (schedule : Schedule)
    (sparse : schedule.Sparse) :
    (session driver.interrupted.handle operations (world.attach schedule)).map
        (·.onState World.erase) = session driver.handle operations world ↔
      Undisturbed driver operations (world.attach schedule) := by
  induction operations generalizing world schedule with
  | nil => simp [session, Undisturbed]
  | cons operation operations ih =>
    by_cases undisturbed : operation.Undisturbed driver (world.attach schedule)
    · obtain ⟨rest, sparse, same⟩ := operation_same restartable sparse undisturbed
      simp only [session, Undisturbed, same, undisturbed, true_and]
      cases run driver.handle operation.program world with
      | halted op last => simp [Outcome.onState, World.erase, World.attach]
      | returned value last =>
        have later := ih last rest sparse
        simp only [Outcome.onState, List.map_cons, List.cons.injEq, Outcome.returned.injEq]
        constructor
        · rintro ⟨_, tails⟩ _ _ ⟨rfl, rfl⟩
          exact later.mp tails
        · intro undisturbed
          exact ⟨⟨trivial, rfl⟩, later.mpr (undisturbed value _ ⟨rfl, rfl⟩)⟩
    · obtain ⟨interrupted, differs⟩ := operation_differs undisturbed
      simp only [session, Undisturbed, interrupted, undisturbed, false_and, iff_false]
      cases plain : run driver.handle operation.program world with
      | returned value last => simp [Outcome.onState]
      | halted op last =>
        intro same
        simp only [Outcome.onState, List.map_cons, List.map_nil, List.cons.injEq,
          and_true] at same
        exact differs (plain.trans same.symm)

theorem webcam_restartable (selected : SelectReply) : (Webcam.driver selected).Restartable := by
  intro device fd request refused
  cases request with
  | dqbuf buf =>
    simp only [Webcam.driver, Webcam.ioctl] at refused
    split_ifs at refused
    cases refused
  | querycap | sFmt | reqbufs | querybuf | qbuf | streamon | streamoff | cropcap | sCrop =>
    cases refused

def opened : World Device :=
  { Webcam.unopened with camera := ⟨3, 2, 1, 0, [], ⟨[], 0⟩⟩ }

-- Every call is put off seven times, the eighth, which is the select, not at all.
def spareSelect : Schedule := fun call => if call = 7 then 0 else 7

theorem session_unchanged_iff_undisturbed_webcam :
    (session (Webcam.driver .ready).interrupted.handle [.init, .start, .frame ⟨1, 0⟩]
        (opened.attach spareSelect)).map (·.onState World.erase) =
      session (Webcam.driver .ready).handle [.init, .start, .frame ⟨1, 0⟩] opened := by
  have sparse : spareSelect.Sparse := by
    intro call
    simp only [spareSelect]
    split_ifs <;> omega
  have unchanged := session_unchanged_iff_undisturbed (Webcam.driver .ready)
    (webcam_restartable .ready) [.init, .start, .frame ⟨1, 0⟩] opened spareSelect sparse
  apply unchanged.mpr
  refine ⟨trivial, fun _ _ inited => ?_⟩
  cases inited
  refine ⟨trivial, fun _ _ started => ?_⟩
  cases started
  exact ⟨.inl rfl, fun _ _ _ => trivial⟩

-- The seven requests before the select go through, and its one interruption ends the process.
def interruptSelect : Schedule := fun call => if call = 7 then 1 else 0

theorem interrupted_select_quits :
    ¬ ∀ (driver : Driver Device), driver.Restartable →
      ∀ operations (world : World Device) (schedule : Schedule), schedule.Sparse →
        (session driver.interrupted.handle operations (world.attach schedule)).map
          (·.onState World.erase) = session driver.handle operations world := by
  intro unchanged
  have sparse : interruptSelect.Sparse := by
    intro call
    simp only [interruptSelect]
    split_ifs <;> omega
  have same := unchanged (Webcam.driver .timeout) (webcam_restartable .timeout)
    [.init, .start, .frame ⟨1, 0⟩] opened interruptSelect sparse
  have ends := congrArg (List.map fun outcome => match outcome with
    | .returned _ _ => true
    | .halted _ _ => false) same
  have differ : [true, true, false] = [true, true, true] := ends
  cases differ

end Uvc
