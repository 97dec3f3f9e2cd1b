import LinuxTutorial.Uvc.Driver

set_option autoImplicit false

namespace Uvc

open Interaction

section Rules

variable {δ α : Type} {answers : δ → (call : SysCall) → call.Answer → δ → Prop}
  {contents : δ → Mapping → List UInt8} {during : Op → World δ → Prop}
  {post : α → World δ → Prop} {world : World δ}

theorem always_load {next : Camera → CameraM α} (before : during .load world)
    (rest : Always (respond answers contents) during post (next world.camera) world) :
    Always (respond answers contents) during post (load >>= next) world := by
  refine ⟨before, fun answer middle answered => ?_⟩
  obtain ⟨rfl, rfl⟩ := answered
  exact rest

theorem always_store {camera : Camera} {next : Unit → CameraM α}
    (before : during (.store camera) world)
    (rest : Always (respond answers contents) during post (next ())
      { world with camera := camera }) :
    Always (respond answers contents) during post (store camera >>= next) world := by
  refine ⟨before, fun answer middle answered => ?_⟩
  cases (show middle = _ from answered)
  exact rest

theorem always_memcpy {index length : Nat} {next : Unit → CameraM α}
    (before : during (.memcpy index length) world)
    (rest : ∀ camera, world.camera.memcpy (contents world.device) index length = some camera →
      Always (respond answers contents) during post (next ()) { world with camera := camera }) :
    Always (respond answers contents) during post (memcpyHead index length >>= next) world := by
  refine ⟨before, fun answer middle answered => ?_⟩
  obtain ⟨camera, copied, rfl⟩ := answered
  exact rest camera copied

theorem always_sys {call : SysCall} {next : call.Answer → CameraM α}
    (before : during (.sys call) world)
    (rest : ∀ answer device, answers world.device call answer device →
      Always (respond answers contents) during post (next answer)
        { world with device := device }) :
    Always (respond answers contents) during post (sys call >>= next) world := by
  refine ⟨before, fun answer middle answered => ?_⟩
  obtain ⟨camera, device⟩ := middle
  obtain ⟨related, same⟩ := answered
  cases (show camera = world.camera from same)
  exact rest answer device related

theorem always_quit {msg : String} (before : during (.exit msg) world) :
    Always (respond answers contents) during post (quit msg) world :=
  ⟨before, fun answer => nomatch answer⟩

-- `kept made` holds when `made` tries have been interrupted.
theorem always_xioctl_tries {kept : Nat → World δ → Prop} {fd : Int} {request : Request}
    {post : Reply request.Arg → World δ → Prop} (holds : kept 0 world)
    (before : ∀ made world, kept made world → during (.sys (.ioctl fd request)) world)
    (interrupted : ∀ made world device, made < 100 → kept made world →
      answers world.device (.ioctl fd request) (.fail eintr) device →
        kept (made + 1) { world with device := device })
    (exhausted : ∀ world, kept 100 world → post (.fail eintr) world)
    (failed : ∀ made errno world device, made < 100 → errno ≠ eintr → kept made world →
      answers world.device (.ioctl fd request) (.fail errno) device →
        post (.fail errno) { world with device := device })
    (completed : ∀ made r arg world device, made < 100 → kept made world →
      answers world.device (.ioctl fd request) (.done r arg) device →
        post (.done r arg) { world with device := device }) :
    Always (respond answers contents) during post (xioctl fd request) world := by
  have loop (attempts made : Nat) (world : World δ) (left : made + attempts = 100)
      (holds : kept made world) :
      Always (respond answers contents) during post (xioctlLoop fd request attempts) world := by
    induction attempts generalizing made world with
    | zero =>
      obtain rfl : made = 100 := left
      exact exhausted world holds
    | succ attempts ih =>
      refine always_sys (before made world holds) fun answer device answered => ?_
      cases answer with
      | done r arg => exact completed made r arg world device (by omega) holds answered
      | fail errno =>
        by_cases same : errno = eintr
        · subst same
          simp only [ne_eq, not_true_eq_false, if_false]
          exact ih (made + 1) _ (by omega)
            (interrupted made world device (by omega) holds answered)
        · simp only [same, ne_eq, not_false_eq_true, if_true]
          exact failed made errno world device (by omega) same holds answered
  exact loop 100 0 world (Nat.zero_add 100) holds

theorem always_xioctl_within {kept : World δ → Prop} {fd : Int} {request : Request}
    {post : Reply request.Arg → World δ → Prop}
    (stable : ∀ world errno device, kept world →
      answers world.device (.ioctl fd request) (.fail errno) device →
        kept { world with device := device })
    (holds : kept world)
    (before : ∀ world, kept world → during (.sys (.ioctl fd request)) world)
    (failed : ∀ errno world, kept world → post (.fail errno) world)
    (completed : ∀ r arg world device, kept world →
      answers world.device (.ioctl fd request) (.done r arg) device →
        post (.done r arg) { world with device := device }) :
    Always (respond answers contents) during post (xioctl fd request) world := by
  apply @always_xioctl_tries _ _ _ _ _ fun _ => kept
  · exact holds
  · intro _ world holds
    exact before world holds
  · intro _ world device _ holds answered
    exact stable world eintr device holds answered
  · intro world holds
    exact failed eintr world holds
  · intro _ errno world device _ _ holds answered
    exact failed errno _ (stable world errno device holds answered)
  · intro _ r arg world device _ holds answered
    exact completed r arg world device holds answered

end Rules

-- What a call that fails or is interrupted leaves as it was.
def Stable (kept : World Device → Prop) : Prop :=
  ∀ world device, kept world → Device.Quiet world.device device →
    kept { world with device := device }

theorem always_xioctl {during : Op → World Device → Prop} {kept : World Device → Prop}
    {fd : Int} {request : Request} {post : Reply request.Arg → World Device → Prop}
    {world : World Device} (stable : Stable kept) (holds : kept world)
    (before : ∀ world, kept world → during (.sys (.ioctl fd request)) world)
    (failed : ∀ errno world, kept world → post (.fail errno) world)
    (completed : ∀ r arg world device, kept world →
      V4l2Ioctl world.device request (.done r arg) device →
        post (.done r arg) { world with device := device }) :
    Always v4l2Respond during post (xioctl fd request) world := by
  apply always_xioctl_within _ holds before failed completed
  intro world errno device kept answered
  apply stable world device kept
  cases request <;> exact answered

end Uvc
