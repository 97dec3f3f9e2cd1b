import Mathlib.Logic.Basic

set_option autoImplicit false

/-!
A program is a tree of operations, each answered by the environment: a relation for the logic of
all runs, a partial function for one run, which ends at an operation that has no answer.
-/

namespace Interaction

inductive Prog (Op : Type) (Answer : Op → Type) (α : Type) : Type where
  | done (value : α)
  | ask (op : Op) (next : Answer op → Prog Op Answer α)

variable {Op : Type} {Answer : Op → Type} {α β σ : Type}

namespace Prog

def bind : Prog Op Answer α → (α → Prog Op Answer β) → Prog Op Answer β
  | .done value, next => next value
  | .ask op rest, next => .ask op fun answer => (rest answer).bind next

instance : Monad (Prog Op Answer) where
  pure := .done
  bind := bind

@[simp] theorem pure_eq (value : α) : (pure value : Prog Op Answer α) = .done value := rfl

@[simp] theorem ask_bind (op : Op) (rest : Answer op → Prog Op Answer α)
    (next : α → Prog Op Answer β) :
    (Prog.ask op rest >>= next) = .ask op fun answer => rest answer >>= next := rfl

end Prog

abbrev Respond (Op : Type) (Answer : Op → Type) (σ : Type) :=
  σ → (op : Op) → Answer op → σ → Prop

inductive Reach (respond : Respond Op Answer σ) :
    Prog Op Answer α → σ → Prog Op Answer α → σ → Prop
  | here (program : Prog Op Answer α) (state : σ) : Reach respond program state program state
  | later {op : Op} {next : Answer op → Prog Op Answer α} {answer : Answer op}
      {state middle last : σ} {rest : Prog Op Answer α}
      (answered : respond state op answer middle)
      (tail : Reach respond (next answer) middle rest last) :
      Reach respond (.ask op next) state rest last

abbrev Returns (respond : Respond Op Answer σ) (program : Prog Op Answer α) (state : σ)
    (value : α) (last : σ) : Prop :=
  Reach respond program state (.done value) last

/-- `during` holds before each operation of every run, `post` where a run returns. -/
def Always (respond : Respond Op Answer σ) (during : Op → σ → Prop) (post : α → σ → Prop) :
    Prog Op Answer α → σ → Prop
  | .done value, state => post value state
  | .ask op next, state =>
    during op state ∧ ∀ answer middle, respond state op answer middle →
      Always respond during post (next answer) middle

variable {respond : Respond Op Answer σ} {during : Op → σ → Prop}

theorem Always.reach {post : α → σ → Prop} {program rest : Prog Op Answer α} {state last : σ}
    (always : Always respond during post program state)
    (path : Reach respond program state rest last) : Always respond during post rest last := by
  induction path with
  | here => exact always
  | later answered _ ih => exact ih (always.2 _ _ answered)

theorem Always.returns {post : α → σ → Prop} {program : Prog Op Answer α} {value : α}
    {state last : σ} (always : Always respond during post program state)
    (path : Returns respond program state value last) : post value last :=
  always.reach path

theorem Always.before {post : α → σ → Prop} {program : Prog Op Answer α} {op : Op}
    {next : Answer op → Prog Op Answer α} {state last : σ}
    (always : Always respond during post program state)
    (path : Reach respond program state (.ask op next) last) : during op last :=
  (always.reach path).1

theorem always_bind {middle : α → σ → Prop} {post : β → σ → Prop} {program : Prog Op Answer α}
    {next : α → Prog Op Answer β} {state : σ}
    (first : Always respond during middle program state)
    (second : ∀ value last, middle value last → Always respond during post (next value) last) :
    Always respond during post (program >>= next) state := by
  induction program generalizing state with
  | done value => exact second value state first
  | ask op rest ih =>
    refine ⟨first.1, fun answer last answered => ?_⟩
    exact ih answer (first.2 answer last answered)

theorem Always.weaken {often : Op → σ → Prop} {weak strong : α → σ → Prop}
    {program : Prog Op Answer α} {state : σ}
    (always : Always respond often strong program state)
    (before : ∀ op last, often op last → during op last)
    (after : ∀ value last, strong value last → weak value last) :
    Always respond during weak program state := by
  induction program generalizing state with
  | done value => exact after value state always
  | ask op rest ih =>
    refine ⟨before op state always.1, fun answer last answered => ?_⟩
    exact ih answer (always.2 answer last answered)

abbrev Handler (Op : Type) (Answer : Op → Type) (σ : Type) :=
  σ → (op : Op) → Option (Answer op × σ)

inductive Outcome (Op α σ : Type) where
  | returned (value : α) (state : σ)
  | halted (op : Op) (state : σ)

def run (handler : Handler Op Answer σ) : Prog Op Answer α → σ → Outcome Op α σ
  | .done value, state => .returned value state
  | .ask op next, state =>
    match handler state op with
    | some (answer, middle) => run handler (next answer) middle
    | none => .halted op state

def Outcome.bind (outcome : Outcome Op α σ) (next : α → σ → Outcome Op β σ) : Outcome Op β σ :=
  match outcome with
  | .returned value state => next value state
  | .halted op state => .halted op state

def Outcome.onState {τ : Type} (change : σ → τ) : Outcome Op α σ → Outcome Op α τ
  | .returned value state => .returned value (change state)
  | .halted op state => .halted op (change state)

theorem run_bind (handler : Handler Op Answer σ) (program : Prog Op Answer α)
    (next : α → Prog Op Answer β) (state : σ) :
    run handler (program >>= next) state =
      (run handler program state).bind fun value last => run handler (next value) last := by
  induction program generalizing state with
  | done value => rfl
  | ask op rest ih =>
    simp only [Prog.ask_bind, run]
    cases handler state op with
    | none => rfl
    | some reply => exact ih reply.1 reply.2

theorem Always.halted {post : α → σ → Prop} {handler : Handler Op Answer σ}
    {program : Prog Op Answer α} {op : Op} {state last : σ}
    (within : ∀ before op answer after, handler before op = some (answer, after) →
      respond before op answer after)
    (always : Always respond during post program state)
    (stopped : run handler program state = .halted op last) : during op last := by
  induction program generalizing state with
  | done value => cases stopped
  | ask asked rest ih =>
    simp only [run] at stopped
    cases replied : handler state asked with
    | none =>
      rw [replied] at stopped
      cases stopped
      exact always.1
    | some reply =>
      rw [replied] at stopped
      exact ih reply.1 (always.2 _ _ (within _ _ _ _ replied)) stopped

-- The function has to answer within the relation on the states `kept`, and to stay in them.
theorem returns_of_run {handler : Handler Op Answer σ} {program : Prog Op Answer α} {value : α}
    {kept : σ → Prop} {state last : σ}
    (within : ∀ before op answer after, kept before →
      handler before op = some (answer, after) → respond before op answer after ∧ kept after)
    (holds : kept state) (completed : run handler program state = .returned value last) :
    Returns respond program state value last := by
  induction program generalizing state with
  | done result =>
    cases completed
    exact .here _ _
  | ask op rest ih =>
    simp only [run] at completed
    cases replied : handler state op with
    | none => simp [replied] at completed
    | some reply =>
      rw [replied] at completed
      obtain ⟨answered, after⟩ := within _ _ _ _ holds replied
      exact .later answered (ih reply.1 after completed)

theorem Always.narrow {fewer : Respond Op Answer σ} {post : α → σ → Prop}
    {program : Prog Op Answer α} {state : σ} (always : Always respond during post program state)
    (within : ∀ before op answer after, fewer before op answer after →
      respond before op answer after) : Always fewer during post program state := by
  induction program generalizing state with
  | done value => exact always
  | ask op rest ih =>
    refine ⟨always.1, fun answer middle answered => ?_⟩
    exact ih answer (always.2 answer middle (within _ _ _ _ answered))

theorem Always.and {also : Op → σ → Prop} {post other : α → σ → Prop} {program : Prog Op Answer α}
    {state : σ} (first : Always respond during post program state)
    (second : Always respond also other program state) :
    Always respond (fun op state => during op state ∧ also op state)
      (fun value state => post value state ∧ other value state) program state := by
  induction program generalizing state with
  | done value => exact ⟨first, second⟩
  | ask op rest ih =>
    refine ⟨⟨first.1, second.1⟩, fun answer middle answered => ?_⟩
    exact ih answer (first.2 answer middle answered) (second.2 answer middle answered)

-- An environment that answers every operation a run comes to lets the program return.
theorem Always.completes {post : α → σ → Prop} {handler : Handler Op Answer σ} {kept : σ → Prop}
    {program : Prog Op Answer α} {state : σ}
    (within : ∀ before op answer after, kept before →
      handler before op = some (answer, after) → respond before op answer after ∧ kept after)
    (answers : ∀ op state, during op state → handler state op ≠ none) (holds : kept state)
    (always : Always respond during post program state) :
    ∃ value last, run handler program state = .returned value last ∧ post value last ∧
      kept last := by
  induction program generalizing state with
  | done value => exact ⟨value, state, rfl, always, holds⟩
  | ask op rest ih =>
    cases replied : handler state op with
    | none => exact absurd replied (answers op state always.1)
    | some reply =>
      obtain ⟨answered, after⟩ := within _ _ _ _ holds replied
      simp only [run, replied]
      exact ih reply.1 after (always.2 _ _ answered)

end Interaction
