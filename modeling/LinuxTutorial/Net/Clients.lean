import LinuxTutorial.Ipc.SockText
import LinuxTutorial.Shared.Interaction

set_option autoImplicit false

/-!
A call answers what it likes, except that only an open socket is connected.
-/

namespace Client

open CText Interaction

-- NULL is `none`.
abbrev Pointer : Type := Option Nat

/-- OpenSSL's objects and the lines of X509_NAME_oneline are known by numbers. -/
inductive Op where
  | socket
  | connect (fd : Int)
  | send (fd : Int) (bytes : List UInt8)
  | close (fd : Int)
  | createThread
  | ctxNew
  | ctxFree (ctx : Nat)
  | sslNew (ctx : Nat)
  | setFd (ssl : Pointer) (fd : Int)
  | sslConnect (ssl : Pointer)
  | getCipher (ssl : Pointer)
  | sslWrite (ssl : Pointer) (bytes : List UInt8)
  | sslShutdown (ssl : Pointer)
  | sslFree (ssl : Pointer)
  | peerCertificate (ssl : Pointer)
  | oneline (certificate : Nat)
  | print (line : Pointer)
  | free (line : Pointer)
  | x509Free (certificate : Nat)

@[reducible] def Op.Answer : Op → Type
  | .socket | .send _ _ | .sslConnect _ | .sslWrite _ _ => Int
  | .connect _ | .createThread | .setFd _ _ => Bool
  | .ctxNew | .sslNew _ | .peerCertificate _ | .oneline _ => Pointer
  | .close _ | .ctxFree _ | .getCipher _ | .sslShutdown _ | .sslFree _ | .print _ | .free _
  | .x509Free _ => Unit

abbrev ClientM (α : Type) := Prog Op Op.Answer α

def call (op : Op) : ClientM op.Answer := .ask op .done

def buffer : List UInt8 := ascii "Hello, TCP Server"

-- The loops that send; the quit flag is found unset `rounds` times at most.
def sendLoop (send : List UInt8 → ClientM Int) (goesOn : Int → Bool) (buffers : Nat → List UInt8)
    (count : Nat) : Nat → ClientM Unit
  | 0 => pure ()
  | rounds + 1 => do
    let size ← send (buffers count)
    if goesOn size then sendLoop send goesOn buffers (count + 1) rounds else pure ()

def tcpLoop (sock : Int) : Nat → ClientM Unit :=
  sendLoop (fun bytes => call (.send sock bytes)) (fun wsize => ¬ wsize < 0) (fun _ => buffer) 0

def tcpClient (rounds : Nat) : ClientM Int := do
  let sock : Int ← call .socket
  let connected : Bool ← call (.connect sock)
  if connected then do
    tcpLoop sock rounds
    let _ ← call (.close sock)
    pure 0
  else do
    let _ ← call (.close sock)
    pure (-1)

def showCert (ssl : Pointer) : ClientM Unit := do
  let cert : Pointer ← call (.peerCertificate ssl)
  match cert with
  | none => pure ()
  | some cert => do
    let subject : Pointer ← call (.oneline cert)
    let _ ← call (.print subject)
    let _ ← call (.free subject)
    let issuer : Pointer ← call (.oneline cert)
    let _ ← call (.print issuer)
    let _ ← call (.free issuer)
    let _ ← call (.x509Free cert)
    pure ()

def tlsLoop (ssl : Pointer) : Nat → ClientM Unit :=
  sendLoop (fun bytes => call (.sslWrite ssl bytes)) (fun wsize => ¬ wsize < 0) (fun _ => buffer) 0

-- A failed SSL_connect is printed, and main goes on.
def handshake (ssl : Pointer) : ClientM Unit := do
  let result : Int ← call (.sslConnect ssl)
  if result = -1 then pure ()
  else do
    let _ ← call (.getCipher ssl)
    showCert ssl

-- main of net/tls_client.c behind its successful connect; it tests neither SSL_new nor SSL_set_fd
def tlsSession (ctx : Nat) (sock : Int) (rounds : Nat) : ClientM Unit := do
  let ssl : Pointer ← call (.sslNew ctx)
  let _ ← call (.setFd ssl sock)
  handshake ssl
  tlsLoop ssl rounds
  let _ ← call (.sslShutdown ssl)
  let _ ← call (.sslFree ssl)
  pure ()

def tlsClient (rounds : Nat) : ClientM Int := do
  let context : Pointer ← call .ctxNew
  match context with
  -- exit(1)
  | none => pure 1
  | some ctx => do
    let sock : Int ← call .socket
    let connected : Bool ← call (.connect sock)
    if connected then do
      tlsSession ctx sock rounds
      let _ ← call (.close sock)
      let _ ← call (.ctxFree ctx)
      pure 0
    else do
      let _ ← call (.close sock)
      pure (-1)

def records (pid : Int32) (stale : Nat → Buffer SockText.bufferSize) (count : Nat) : List UInt8 :=
  (stale count).sprintf (SockText.message pid count)

def processThread (sock : Int) (pid : Int32) (stale : Nat → Buffer SockText.bufferSize) :
    Nat → ClientM Unit :=
  sendLoop (fun bytes => call (.send sock bytes)) (fun size => ¬ size ≤ 0) (records pid stale) 0

def sendingThread (sock : Int) (pid : Int32) (stale : Nat → Buffer SockText.bufferSize)
    (rounds : Nat) : ClientM Unit := do
  let created : Bool ← call .createThread
  if created then processThread sock pid stale rounds else pure ()

def sockClient (pid : Int32) (stale : Nat → Buffer SockText.bufferSize) (rounds : Nat) :
    ClientM Int := do
  let serverFd : Int ← call .socket
  let connected : Bool ← call (.connect serverFd)
  if connected then do
    sendingThread serverFd pid stale rounds
    let _ ← call (.close serverFd)
    pure 0
  else pure 0

structure Held where
  fds : List Int
  contexts : List Nat
  sessions : List Nat
  -- SSL objects with their descriptors
  bound : List (Nat × Int)
  certificates : List Nat
  lines : List Nat
  -- calls of connect that failed
  refused : Nat
  -- what each call of send or SSL_write has taken
  sent : List (List UInt8)
  -- what SSL_connect, send and SSL_write have returned
  results : List Int

def Held.opens (held : Held) (fd : Int) : Held :=
  if fd = -1 then held else { held with fds := fd :: held.fds }

def Held.closes (held : Held) (fd : Int) : Held :=
  if fd = -1 then held else { held with fds := held.fds.erase fd }

def Held.refuses (held : Held) : Held := { held with refused := held.refused + 1 }

def Held.logged (held : Held) (sent : List (List UInt8)) (results : List Int) : Held :=
  { held with sent := held.sent ++ sent, results := held.results ++ results }

def Held.sends (held : Held) (bytes : List UInt8) (size : Int) : Held :=
  held.logged [bytes.take size.toNat] [size]

def Held.after (held : Held) : (op : Op) → op.Answer → Held
  | .socket, (fd : Int) => held.opens fd
  | .connect _, (connected : Bool) => if connected then held else held.refuses
  | .send _ bytes, (size : Int) => held.sends bytes size
  | .close fd, _ => held.closes fd
  | .createThread, _ => held
  | .ctxNew, (context : Pointer) => { held with contexts := context.toList ++ held.contexts }
  | .ctxFree ctx, _ => { held with contexts := held.contexts.erase ctx }
  | .sslNew _, (ssl : Pointer) => { held with sessions := ssl.toList ++ held.sessions }
  | .setFd ssl fd, (set : Bool) =>
    if set then { held with bound := ssl.toList.map (·, fd) ++ held.bound } else held
  | .sslConnect _, (result : Int) => held.logged [] [result]
  | .getCipher _, _ => held
  | .sslWrite _ bytes, (size : Int) => held.sends bytes size
  | .sslShutdown _, _ => held
  | .sslFree ssl, _ =>
    { held with
      sessions := held.sessions.diff ssl.toList
      bound := held.bound.eraseP fun pair => some pair.1 = ssl }
  | .peerCertificate _, (certificate : Pointer) =>
    { held with certificates := certificate.toList ++ held.certificates }
  | .oneline _, (line : Pointer) => { held with lines := line.toList ++ held.lines }
  | .print _, _ => held
  | .free line, _ => { held with lines := held.lines.diff line.toList }
  | .x509Free certificate, _ =>
    { held with certificates := held.certificates.erase certificate }

def Points (pointer : Pointer) (objects : List Nat) : Prop :=
  ∃ object, pointer = some object ∧ object ∈ objects

def Connected (ssl : Pointer) (held : Held) : Prop :=
  ∃ object fd, ssl = some object ∧ object ∈ held.sessions ∧ fd ∈ held.fds ∧
    (object, fd) ∈ held.bound

/-- Calls come with what is held; -1 for a socket is refused by the kernel. -/
def Lawful : Op → Held → Prop
  | .socket, _ | .createThread, _ | .ctxNew, _ => True
  | .connect fd, held | .close fd, held => fd ∈ held.fds ∨ fd = -1
  | .send fd _, held => fd ∈ held.fds
  | .ctxFree ctx, held | .sslNew ctx, held => ctx ∈ held.contexts
  | .setFd ssl fd, held => Points ssl held.sessions ∧ fd ∈ held.fds
  | .sslConnect ssl, held | .sslWrite ssl _, held | .sslShutdown ssl, held => Connected ssl held
  | .getCipher ssl, held | .peerCertificate ssl, held | .sslFree ssl, held =>
    Points ssl held.sessions
  | .oneline certificate, held | .x509Free certificate, held => certificate ∈ held.certificates
  | .print line, held => Points line held.lines
  | .free line, held => line = none ∨ Points line held.lines

def Possible (held : Held) : (op : Op) → op.Answer → Prop
  | .connect fd, (connected : Bool) => connected = true → fd ∈ held.fds
  | _, _ => True

-- The calls of OpenSSL whose results are not tested succeed.
def Supplied : (op : Op) → op.Answer → Prop
  | .sslNew _, (pointer : Pointer) | .oneline _, (pointer : Pointer) => pointer ≠ none
  | .setFd _ _, (set : Bool) => set = true
  | _, _ => True

def anyAnswer (op : Op) (_ : op.Answer) : Prop := True

def respond (admits : (op : Op) → op.Answer → Prop) : Respond Op Op.Answer Held :=
  fun held op answer later =>
    Possible held op answer ∧ admits op answer ∧ later = held.after op answer

end Client
