import LinuxTutorial.Net.SessionText

set_option autoImplicit false

/-!
OpenSSL's handshake calls succeed exactly when they return 1, its data calls transfer data exactly
when they return more than 0.
-/

namespace SessionText

open CText

def Ready (before : List Event) : Prop :=
  .handshake 1 ∈ before ∧ ∀ earlier, .data earlier ∈ before → 0 < earlier

def Allowed (before : List Event) : Event → Prop
  | .data _ => Ready before
  | .receiveData _ => ∃ earlier result, before = earlier ++ [.data result] ∧ 0 < result
  | _ => True

def AllowedFrom (before events : List Event) : Prop :=
  ∀ middle event after, events = middle ++ event :: after → Allowed (before ++ middle) event

def Established (events : List Event) : Prop := AllowedFrom [] events

-- The quit flag is set before the first call.
def NoCall : List Turn → Prop
  | .call _ _ _ :: _ => False
  | _ => True

-- Of the results of SSL_read that the loop comes to, none is below -1.
def Recognized : List Turn → Prop
  | .call rsize _ _ :: rest => -1 ≤ rsize ∧ (0 < rsize → Recognized rest)
  | _ => True

def NoWrite : List (Option Int) → Prop
  | some _ :: _ => False
  | _ => True

-- Of the results of SSL_write that the loop comes to, only the last may be 0.
def ZeroLast : List (Option Int) → Prop
  | some wsize :: rest => (wsize = 0 → NoWrite rest) ∧ (0 < wsize → ZeroLast rest)
  | _ => True

theorem allowedFrom_nil (before : List Event) : AllowedFrom before [] := by
  intro middle event after split
  simp at split

theorem allowedFrom_cons (before : List Event) (event : Event) (rest : List Event) :
    AllowedFrom before (event :: rest) ↔
      Allowed before event ∧ AllowedFrom (before ++ [event]) rest := by
  constructor
  · intro allowed
    constructor
    · simpa using allowed [] event rest rfl
    · intro middle later after split
      rw [List.append_assoc, List.singleton_append]
      apply allowed (event :: middle) later after
      rw [split, List.cons_append]
  · rintro ⟨first, others⟩ middle later after split
    cases middle with
    | nil =>
      obtain ⟨rfl, rfl⟩ := List.cons.inj split
      simpa using first
    | cons head middle =>
      obtain ⟨rfl, same⟩ := List.cons.inj split
      have allowed := others middle later after same
      rwa [List.append_assoc, List.singleton_append] at allowed

theorem allowed_receiveData (before : List Event) (result : Int) (text : Option (List UInt8)) :
    Allowed (before ++ [.data result]) (.receiveData text) ↔ 0 < result := by
  constructor
  · rintro ⟨earlier, last, same, positive⟩
    obtain ⟨rfl⟩ : result = last := by
      simpa using (List.append_inj' same rfl).2
    exact positive
  · intro positive
    exact ⟨before, result, rfl, positive⟩

theorem ready_data {before : List Event} (ready : Ready before) (result : Int) :
    Ready (before ++ [.data result]) ↔ 0 < result := by
  constructor
  · intro later
    apply later.2
    simp
  · intro positive
    constructor
    · simp [ready.1]
    · intro earlier member
      rcases List.mem_append.mp member with old | new
      · exact ready.2 earlier old
      · obtain ⟨rfl⟩ : earlier = result := by simpa using new
        exact positive

theorem ready_receiveData {before : List Event} (ready : Ready before)
    (text : Option (List UInt8)) : Ready (before ++ [.receiveData text]) := by
  constructor
  · simp [ready.1]
  · intro earlier member
    exact ready.2 earlier (by simpa using member)

theorem ready_handshake (result : Int) : Ready [.handshake result] ↔ result = 1 := by
  simp [Ready, eq_comm]

theorem sessionLoop_unready {before : List Event} (unready : ¬ Ready before)
    (turns : List Turn) : AllowedFrom before (sessionLoop turns) ↔ NoCall turns := by
  cases turns with
  | nil => simp [sessionLoop, NoCall, allowedFrom_nil]
  | cons turn rest =>
    cases turn with
    | quit => simp [sessionLoop, NoCall, allowedFrom_nil]
    | call rsize stale bytes =>
      simp only [sessionLoop, allowedFrom_cons, NoCall, iff_false]
      intro allowed
      exact unready allowed.1

-- By the iterations: each one finds the session ready, as its predecessors' reads were positive.
theorem sessionLoop_ready {before : List Event} (ready : Ready before) (turns : List Turn) :
    AllowedFrom before (sessionLoop turns) ↔ Recognized turns := by
  induction turns generalizing before with
  | nil => simp [sessionLoop, Recognized, allowedFrom_nil]
  | cons turn rest ih =>
    cases turn with
    | quit => simp [sessionLoop, Recognized, allowedFrom_nil]
    | call rsize stale bytes =>
      have first : Allowed before (.data rsize) := ready
      simp only [sessionLoop, allowedFrom_cons, first, true_and, Recognized]
      by_cases failed : rsize = -1
      · simp [failed, allowedFrom_cons, allowedFrom_nil, Allowed]
      by_cases closed : rsize = 0
      · simp [closed, allowedFrom_cons, allowedFrom_nil, Allowed]
      simp only [failed, closed, if_false, allowedFrom_cons, allowed_receiveData]
      by_cases positive : 0 < rsize
      · have later : Ready (before ++ [.data rsize] ++
            [.receiveData (cstring (stale.store bytes))]) :=
          ready_receiveData ((ready_data ready rsize).mpr positive) _
        have bound : -1 ≤ rsize := by omega
        simp only [positive, bound, ih later, true_and, forall_const]
      · have below : ¬ -1 ≤ rsize := by omega
        simp [positive, below]

theorem clientLoop_unready {before : List Event} (unready : ¬ Ready before)
    (turns : List (Option Int)) : AllowedFrom before (clientLoop turns) ↔ NoWrite turns := by
  cases turns with
  | nil => simp [clientLoop, NoWrite, allowedFrom_nil]
  | cons turn rest =>
    cases turn with
    | none => simp [clientLoop, NoWrite, allowedFrom_nil]
    | some wsize =>
      simp only [clientLoop, allowedFrom_cons, NoWrite, iff_false]
      intro allowed
      exact unready allowed.1

theorem clientLoop_ready {before : List Event} (ready : Ready before)
    (turns : List (Option Int)) : AllowedFrom before (clientLoop turns) ↔ ZeroLast turns := by
  induction turns generalizing before with
  | nil => simp [clientLoop, ZeroLast, allowedFrom_nil]
  | cons turn rest ih =>
    cases turn with
    | none => simp [clientLoop, ZeroLast, allowedFrom_nil]
    | some wsize =>
      have first : Allowed before (.data wsize) := ready
      have later := ready_data ready wsize
      simp only [clientLoop, allowedFrom_cons, first, true_and, ZeroLast]
      by_cases failed : wsize < 0
      · have nonzero : wsize ≠ 0 := by omega
        have unsent : ¬ 0 < wsize := by omega
        simp [failed, nonzero, unsent, allowedFrom_cons, allowedFrom_nil, Allowed]
      by_cases positive : 0 < wsize
      · have nonzero : wsize ≠ 0 := by omega
        simp [failed, positive, nonzero, ih (later.mpr positive)]
      · have zero : wsize = 0 := by omega
        have unready : ¬ Ready (before ++ [.data wsize]) :=
          fun ready => positive (later.mp ready)
        rw [if_neg failed, clientLoop_unready unready]
        simp [zero]

theorem established_handshake (result : Int) (rest : List Event) :
    Established (.handshake result :: rest) ↔ AllowedFrom [.handshake result] rest := by
  simp [Established, allowedFrom_cons, Allowed]

theorem tls_established_iff (accept connect : Int) (turns : List Turn)
    (writes : List (Option Int)) :
    (Established (tlsSessionProcessThread accept turns) ↔
      accept = -1 ∨ (accept = 1 ∨ NoCall turns) ∧ Recognized turns) ∧
    (Established (tlsClient connect writes) ↔
      if connect = 1 then ZeroLast writes else NoWrite writes) := by
  constructor
  · rw [tlsSessionProcessThread, established_handshake]
    by_cases failed : accept = -1
    · simp [failed, allowedFrom_nil]
    by_cases shaken : accept = 1
    · have ready : Ready [.handshake accept] := (ready_handshake accept).mpr shaken
      rw [if_neg failed, sessionLoop_ready ready]
      simp [shaken]
    · have unready : ¬ Ready [.handshake accept] :=
        fun ready => shaken ((ready_handshake accept).mp ready)
      have recognized (noCall : NoCall turns) : Recognized turns := by
        unfold NoCall at noCall
        unfold Recognized
        split at noCall <;> simp_all
      simp only [failed, shaken, if_false, sessionLoop_unready unready, false_or]
      constructor
      · intro noCall
        exact ⟨noCall, recognized noCall⟩
      · rintro ⟨noCall, -⟩
        exact noCall
  · rw [tlsClient, established_handshake]
    split_ifs with shaken
    · exact clientLoop_ready ((ready_handshake connect).mpr shaken) writes
    · exact clientLoop_unready (fun ready => shaken ((ready_handshake connect).mp ready)) writes

-- SSL_connect fails and main writes; SSL_accept returns 0 and the thread reads; SSL_read returns
-- -2 and the buffer is logged; SSL_write returns 0 and main writes again.
theorem tls_not_established :
    ¬ Established (tlsClient (-1) [some (-1)]) ∧
    ¬ Established (tlsSessionProcessThread 0 [.call (-1) (.fill bufferSize 0) []]) ∧
    ¬ Established (tlsSessionProcessThread 1 [.call (-2) (.fill bufferSize 0) []]) ∧
    ¬ Established (tlsClient 1 [some 0, some 17]) := by
  refine ⟨?_, ?_, ?_, ?_⟩
  · intro established
    have written := established [.handshake (-1)] (.data (-1)) [.failed] rfl
    simp [Allowed, Ready] at written
  · intro established
    have read := established [.handshake 0] (.data (-1)) [.failed] rfl
    simp [Allowed, Ready] at read
  · intro established
    have logged := established [.handshake 1, .data (-2)] (.receiveData (some [])) [] rfl
    have positive : (0 : Int) < -2 := (allowed_receiveData [.handshake 1] (-2) (some [])).mp logged
    omega
  · intro established
    have written := established [.handshake 1, .data 0] (.data 17) [] rfl
    simp [Allowed, Ready] at written

end SessionText
