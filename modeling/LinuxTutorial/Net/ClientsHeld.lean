import LinuxTutorial.Net.Clients
import LinuxTutorial.Net.SessionText

set_option autoImplicit false

namespace Client

open CText Interaction

variable {α : Type} {held : Held} {admits : (op : Op) → op.Answer → Prop}

theorem always_call {post : α → Held → Prop} {op : Op} {next : op.Answer → ClientM α}
    (lawful : Lawful op held)
    (rest : ∀ answer, Possible held op answer → admits op answer →
      Always (respond admits) Lawful post (next answer) (held.after op answer)) :
    Always (respond admits) Lawful post (call op >>= next) held := by
  refine ⟨lawful, ?_⟩
  rintro answer _ ⟨possible, admitted, rfl⟩
  exact rest answer possible admitted

def taken (buffers : Nat → List UInt8) (count : Nat) : List Int → List (List UInt8)
  | [] => []
  | size :: sizes => (buffers count).take size.toNat :: taken buffers (count + 1) sizes

-- The results that a loop of so many rounds comes to.
def LoopResults (goesOn : Int → Bool) : Nat → List Int → Prop
  | 0, sizes => sizes = []
  | _ + 1, [] => False
  | rounds + 1, size :: sizes =>
    if goesOn size then LoopResults goesOn rounds sizes else sizes = []

theorem logged_nil (held : Held) : held.logged [] [] = held := by simp [Held.logged]

theorem logged_logged (held : Held) (sent later : List (List UInt8)) (results after : List Int) :
    (held.logged sent results).logged later after =
      held.logged (sent ++ later) (results ++ after) := by
  simp [Held.logged]

theorem sends_logged (held : Held) (bytes : List UInt8) (size : Int) (sent : List (List UInt8))
    (results : List Int) :
    (held.sends bytes size).logged sent results =
      held.logged (bytes.take size.toNat :: sent) (size :: results) :=
  logged_logged held _ _ _ _

theorem opens_logged (held : Held) (fd : Int) (sent : List (List UInt8)) (results : List Int) :
    (held.opens fd).logged sent results = (held.logged sent results).opens fd := by
  unfold Held.opens
  split_ifs <;> rfl

theorem closes_opens (held : Held) (fd : Int) : (held.opens fd).closes fd = held := by
  unfold Held.opens Held.closes
  split_ifs
  · rfl
  · simp

theorem opens_refuses (held : Held) (fd : Int) :
    (held.opens fd).refuses = held.refuses.opens fd := by
  unfold Held.opens
  split_ifs <;> rfl

theorem mem_opens (held : Held) (fd : Int) : fd ∈ (held.opens fd).fds ∨ fd = -1 := by
  unfold Held.opens
  split_ifs with invalid
  · exact .inr invalid
  · exact .inl List.mem_cons_self

theorem always_sendLoop {send : List UInt8 → ClientM Int} {goesOn : Int → Bool}
    {buffers : Nat → List UInt8} (count rounds : Nat)
    (sends : ∀ sent results bytes, Always (respond admits) Lawful
      (fun size after => after = (held.logged sent results).sends bytes size) (send bytes)
        (held.logged sent results)) :
    Always (respond admits) Lawful
      (fun _ after => ∃ sizes, LoopResults goesOn rounds sizes ∧
        after = held.logged (taken buffers count sizes) sizes)
      (sendLoop send goesOn buffers count rounds) held := by
  induction rounds generalizing held count with
  | zero => exact ⟨[], rfl, (logged_nil held).symm⟩
  | succ rounds ih =>
    have first := sends [] [] (buffers count)
    rw [logged_nil] at first
    refine always_bind first fun size last sent => ?_
    subst sent
    split
    next goes =>
      refine (ih (count + 1) fun sent results bytes => ?_).weaken (fun _ _ lawful => lawful) ?_
      · rw [sends_logged]
        exact sends _ _ bytes
      · rintro _ after ⟨sizes, results, rfl⟩
        refine ⟨size :: sizes, ?_, sends_logged held _ _ _ _⟩
        simpa [LoopResults, goes] using results
    next stops => exact ⟨[size], by simp [LoopResults, stops], rfl⟩

theorem always_send {sock : Int} (opened : sock ∈ held.fds) (sent : List (List UInt8))
    (results : List Int) (bytes : List UInt8) :
    Always (respond admits) Lawful
      (fun size after => after = (held.logged sent results).sends bytes size)
      (call (.send sock bytes)) (held.logged sent results) := by
  refine ⟨opened, ?_⟩
  rintro size _ ⟨-, -, rfl⟩
  rfl

theorem always_sslWrite {ssl : Pointer} (ready : Connected ssl held) (sent : List (List UInt8))
    (results : List Int) (bytes : List UInt8) :
    Always (respond admits) Lawful
      (fun size after => after = (held.logged sent results).sends bytes size)
      (call (.sslWrite ssl bytes)) (held.logged sent results) := by
  refine ⟨ready, ?_⟩
  rintro size _ ⟨-, -, rfl⟩
  rfl

theorem after_print (held : Held) (line : Pointer) (answer : Unit) :
    held.after (.print line) answer = held := rfl

theorem oneline_free (held : Held) (certificate line : Nat) (answer : Unit) :
    (held.after (.oneline certificate) (some line)).after (.free (some line)) answer = held := by
  simp [Held.after]

theorem peerCertificate_free (held : Held) (ssl : Pointer) (certificate : Nat) (answer : Unit) :
    (held.after (.peerCertificate ssl) (some certificate)).after (.x509Free certificate) answer =
      held := by
  simp [Held.after]

theorem always_showCert {ssl : Pointer} (present : Points ssl held.sessions) :
    Always (respond Supplied) Lawful (fun _ after => after = held) (showCert ssl) held := by
  refine always_call present fun cert _ _ => ?_
  cases cert with
  | none => rfl
  | some cert =>
    have among (objects : List Nat) (object : Nat) : Points (some object) (object :: objects) :=
      ⟨object, rfl, List.mem_cons_self⟩
    refine always_call List.mem_cons_self fun (subject : Pointer) _ named => ?_
    obtain ⟨subject, rfl⟩ := Option.ne_none_iff_exists'.mp named
    refine always_call (among _ _) fun _ _ _ => ?_
    refine always_call (.inr (among _ _)) fun _ _ _ => ?_
    rw [after_print, oneline_free]
    refine always_call List.mem_cons_self fun (issuer : Pointer) _ named => ?_
    obtain ⟨issuer, rfl⟩ := Option.ne_none_iff_exists'.mp named
    refine always_call (among _ _) fun _ _ _ => ?_
    refine always_call (.inr (among _ _)) fun _ _ _ => ?_
    rw [after_print, oneline_free]
    refine always_call List.mem_cons_self fun _ _ _ => ?_
    exact peerCertificate_free held ssl cert _

def callResults (events : List SessionText.Event) : List Int :=
  events.filterMap fun event => match event with
    | .handshake result | .data result => some result
    | _ => none

theorem callResults_tlsClient (connect : Int) {rounds : Nat} {sizes : List Int}
    (results : LoopResults (fun wsize => ¬ wsize < 0) rounds sizes) :
    callResults (SessionText.tlsClient connect (sizes.map some)) = connect :: sizes := by
  have loop : callResults (SessionText.clientLoop (sizes.map some)) = sizes := by
    induction rounds generalizing sizes with
    | zero =>
      obtain rfl : sizes = [] := results
      rfl
    | succ rounds ih =>
      cases sizes with
      | nil => exact results.elim
      | cons size sizes =>
        by_cases failed : size < 0
        · obtain rfl : sizes = [] := by simpa [LoopResults, failed] using results
          simp [SessionText.clientLoop, callResults, failed]
        · have later : callResults (SessionText.clientLoop (sizes.map some)) = sizes :=
            ih (by simpa [LoopResults, failed] using results)
          simpa [SessionText.clientLoop, callResults, failed] using later
  exact congrArg (connect :: ·) loop

theorem taken_clientThread (pid : Int32) (stale : Nat → Buffer SockText.bufferSize) (count : Nat)
    {rounds : Nat} {sizes : List Int}
    (results : LoopResults (fun size => ¬ size ≤ 0) rounds sizes) :
    (taken (records pid stale) count sizes).flatten =
      (SockText.clientThread pid stale count sizes).stream := by
  induction rounds generalizing count sizes with
  | zero =>
    obtain rfl : sizes = [] := results
    rfl
  | succ rounds ih =>
    cases sizes with
    | nil => rfl
    | cons size sizes =>
      by_cases failed : size ≤ 0
      · obtain rfl : sizes = [] := by simpa [LoopResults, failed] using results
        simp [taken, SockText.clientThread, failed, Int.toNat_of_nonpos failed]
      · have later := ih (count + 1) (by simpa [LoopResults, failed] using results)
        simp [taken, SockText.clientThread, failed, later, records]

theorem always_handshake {ssl : Pointer} (ready : Connected ssl held) :
    Always (respond Supplied) Lawful (fun _ after => ∃ result, after = held.logged [] [result])
      (handshake ssl) held := by
  obtain ⟨object, fd, named, present, opened, bound⟩ := ready
  have points : Points ssl held.sessions := ⟨object, named, present⟩
  refine always_call ⟨object, fd, named, present, opened, bound⟩ fun (result : Int) _ _ => ?_
  split_ifs
  · exact ⟨result, rfl⟩
  · refine always_call points fun _ _ _ => ?_
    have shown : Always (respond Supplied) Lawful (fun _ after => after = held.logged [] [result])
        (showCert ssl) (held.logged [] [result]) := always_showCert points
    exact shown.weaken (fun _ _ lawful => lawful) fun _ _ same => ⟨result, same⟩

theorem always_tlsSession {ctx : Nat} {sock : Int} (context : ctx ∈ held.contexts)
    (opened : sock ∈ held.fds) (rounds : Nat) :
    Always (respond Supplied) Lawful
      (fun _ after => ∃ connect sizes, LoopResults (fun wsize => ¬ wsize < 0) rounds sizes ∧
        after = held.logged (taken (fun _ => buffer) 0 sizes) (connect :: sizes))
      (tlsSession ctx sock rounds) held := by
  refine always_call context fun (ssl : Pointer) _ named => ?_
  obtain ⟨ssl, rfl⟩ := Option.ne_none_iff_exists'.mp named
  refine always_call ⟨⟨ssl, rfl, List.mem_cons_self⟩, opened⟩ fun (set : Bool) _ bound => ?_
  obtain rfl : set = true := bound
  let inside : Held :=
    { held with sessions := ssl :: held.sessions, bound := (ssl, sock) :: held.bound }
  have ready (sent : List (List UInt8)) (results : List Int) :
      Connected (some ssl) (inside.logged sent results) :=
    ⟨ssl, sock, rfl, List.mem_cons_self, opened, List.mem_cons_self⟩
  have shaken := always_handshake (logged_nil inside ▸ ready [] [])
  refine always_bind shaken fun _ _ same => ?_
  obtain ⟨connect, rfl⟩ := same
  have loop : Always (respond Supplied) Lawful
      (fun _ after => ∃ sizes, LoopResults (fun wsize => ¬ wsize < 0) rounds sizes ∧
        after = (inside.logged [] [connect]).logged (taken (fun _ => buffer) 0 sizes) sizes)
      (tlsLoop (some ssl) rounds) (inside.logged [] [connect]) :=
    always_sendLoop 0 rounds (always_sslWrite (ready [] [connect]))
  refine always_bind loop fun _ _ sent => ?_
  obtain ⟨sizes, results, rfl⟩ := sent
  rw [logged_logged]
  refine always_call (ready _ _) fun _ _ _ => ?_
  refine always_call ⟨ssl, rfl, List.mem_cons_self⟩ fun _ _ _ => ?_
  refine ⟨connect, sizes, results, ?_⟩
  simp [Held.after, Held.logged, inside]

theorem sent_closed (held : Held) (sock : Int) (sent : List (List UInt8)) (results : List Int) :
    ((held.opens sock).logged sent results).closes sock = held.logged sent results := by
  rw [opens_logged, closes_opens]

theorem always_tcpClient (held : Held) (rounds : Nat) :
    Always (respond admits) Lawful
      (fun result after =>
        (result = 0 ∧ ∃ sizes, after = held.logged (taken (fun _ => buffer) 0 sizes) sizes) ∨
          (result = -1 ∧ after = held.refuses))
      (tcpClient rounds) held := by
  refine always_call trivial fun (sock : Int) _ _ => ?_
  have named := mem_opens held sock
  refine always_call named fun (connected : Bool) possible _ => ?_
  cases connected with
  | true =>
    refine always_bind (always_sendLoop 0 rounds (always_send (possible rfl))) fun _ _ sent => ?_
    obtain ⟨sizes, -, rfl⟩ := sent
    refine always_call named fun _ _ _ => ?_
    exact .inl ⟨rfl, sizes, sent_closed held sock _ _⟩
  | false =>
    refine always_call named fun _ _ _ => ?_
    refine .inr ⟨rfl, ?_⟩
    show (held.opens sock).refuses.closes sock = held.refuses
    rw [opens_refuses, closes_opens]

theorem always_sockClient (held : Held) (pid : Int32) (stale : Nat → Buffer SockText.bufferSize)
    (rounds : Nat) :
    Always (respond admits) Lawful
      (fun result after => result = 0 ∧
        ((∃ sizes sent, after = held.logged sent sizes ∧ sent = taken (records pid stale) 0 sizes ∧
            sent.flatten = (SockText.clientThread pid stale 0 sizes).stream) ∨
          ∃ fd, after = held.refuses.opens fd))
      (sockClient pid stale rounds) held := by
  refine always_call trivial fun (serverFd : Int) _ _ => ?_
  have named := mem_opens held serverFd
  refine always_call named fun (connected : Bool) possible _ => ?_
  cases connected with
  | true =>
    have threaded : Always (respond admits) Lawful
        (fun _ after => ∃ sizes sent, after = (held.opens serverFd).logged sent sizes ∧
          sent = taken (records pid stale) 0 sizes ∧
            sent.flatten = (SockText.clientThread pid stale 0 sizes).stream)
        (sendingThread serverFd pid stale rounds) (held.opens serverFd) := by
      refine always_call trivial fun (created : Bool) _ _ => ?_
      cases created with
      | true =>
        refine (always_sendLoop 0 rounds (always_send (possible rfl))).weaken
          (fun _ _ lawful => lawful) ?_
        rintro _ after ⟨sizes, results, rfl⟩
        exact ⟨sizes, _, rfl, rfl, taken_clientThread pid stale 0 results⟩
      | false => exact ⟨[], [], (logged_nil _).symm, rfl, rfl⟩
    refine always_bind threaded fun _ _ sent => ?_
    obtain ⟨sizes, sent, rfl, pieces, stream⟩ := sent
    refine always_call named fun _ _ _ => ?_
    exact ⟨rfl, .inl ⟨sizes, sent, sent_closed held serverFd sent sizes, pieces, stream⟩⟩
  | false => exact ⟨rfl, .inr ⟨serverFd, opens_refuses held serverFd⟩⟩

theorem always_tlsClient (held : Held) (rounds : Nat) :
    Always (respond Supplied) Lawful
      (fun result after =>
        (result = 0 ∧ ∃ connect sizes, after = held.logged (taken (fun _ => buffer) 0 sizes)
            (callResults (SessionText.tlsClient connect (sizes.map some)))) ∨
          (result = 1 ∧ after = held) ∨
          (result = -1 ∧ ∃ ctx, after = { held.refuses with contexts := ctx :: held.contexts }))
      (tlsClient rounds) held := by
  refine always_call trivial fun (context : Pointer) _ _ => ?_
  cases context with
  | none => exact .inr (.inl ⟨rfl, rfl⟩)
  | some ctx =>
    let inside : Held := { held with contexts := ctx :: held.contexts }
    refine always_call trivial fun (sock : Int) _ _ => ?_
    have named := mem_opens inside sock
    refine always_call named fun (connected : Bool) possible _ => ?_
    cases connected with
    | true =>
      have context : ctx ∈ (inside.opens sock).contexts := by
        unfold Held.opens
        split_ifs <;> exact List.mem_cons_self
      have session := always_tlsSession context (possible rfl) rounds
      refine always_bind session fun _ _ sent => ?_
      obtain ⟨connect, sizes, results, rfl⟩ := sent
      refine always_call named fun _ _ _ => ?_
      have closed (answer : Unit) :
          ((inside.opens sock).logged (taken (fun _ => buffer) 0 sizes) (connect :: sizes)).after
            (.close sock) answer =
            inside.logged (taken (fun _ => buffer) 0 sizes) (connect :: sizes) :=
        sent_closed inside sock _ _
      rw [closed]
      refine always_call List.mem_cons_self fun _ _ _ => ?_
      refine .inl ⟨rfl, connect, sizes, ?_⟩
      rw [callResults_tlsClient connect results]
      simp [Held.after, Held.logged, inside]
    | false =>
      refine always_call named fun _ _ _ => ?_
      refine .inr (.inr ⟨rfl, ctx, ?_⟩)
      show (inside.opens sock).refuses.closes sock = _
      rw [opens_refuses, closes_opens]
      rfl

-- A NULL from SSL_new is passed on to SSL_set_fd.
theorem tlsClient_unsupplied (held : Held) (rounds : Nat) :
    ¬ Always (respond anyAnswer) Lawful (fun _ _ => True) (tlsClient rounds) held := by
  intro always
  have created := always.2 (some 0) _ ⟨trivial, trivial, rfl⟩
  have opened := created.2 (3 : Int) _ ⟨trivial, trivial, rfl⟩
  have connected := opened.2 true _ ⟨fun _ => List.mem_cons_self, trivial, rfl⟩
  obtain ⟨⟨object, named, -⟩, -⟩ := (connected.2 none _ ⟨trivial, trivial, rfl⟩).1
  cases named

/-- What the three clients hold where they return. Of OpenSSL's allocations tls_client tests
the context alone. -/
theorem clients_give_back (held : Held) (rounds : Nat) :
    Always (respond anyAnswer) Lawful
      (fun result after =>
        (result = 0 ∧ ∃ sizes, after = held.logged (taken (fun _ => buffer) 0 sizes) sizes) ∨
          (result = -1 ∧ after = held.refuses))
      (tcpClient rounds) held ∧
    Always (respond Supplied) Lawful
      (fun result after =>
        (result = 0 ∧ ∃ connect sizes, after = held.logged (taken (fun _ => buffer) 0 sizes)
            (callResults (SessionText.tlsClient connect (sizes.map some)))) ∨
          (result = 1 ∧ after = held) ∨
          (result = -1 ∧ ∃ ctx, after = { held.refuses with contexts := ctx :: held.contexts }))
      (tlsClient rounds) held ∧
    ¬ Always (respond anyAnswer) Lawful (fun _ _ => True) (tlsClient rounds) held ∧
    ∀ pid stale, Always (respond anyAnswer) Lawful
      (fun result after => result = 0 ∧
        ((∃ sizes sent, after = held.logged sent sizes ∧ sent = taken (records pid stale) 0 sizes ∧
            sent.flatten = (SockText.clientThread pid stale 0 sizes).stream) ∨
          ∃ fd, after = held.refuses.opens fd))
      (sockClient pid stale rounds) held :=
  ⟨always_tcpClient held rounds, always_tlsClient held rounds, tlsClient_unsupplied held rounds,
    fun pid stale => always_sockClient held pid stale rounds⟩

end Client
