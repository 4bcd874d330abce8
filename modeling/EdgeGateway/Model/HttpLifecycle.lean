import EdgeGateway.Model.DeviceManager
import EdgeGateway.Model.SerialPort

/-!
# Starting and stopping the HTTP server

`start`, `stop` and the destructor of `http/http_server.cpp`, over the calls of the sockets and of the worker thread.
-/

namespace EdgeGateway
open CallTree

/-- Calls that return `0` or `-1` answer with that number. `inetPton` answers whether the host is an address,
`getsockname` with the port of the socket, and `spawn` with the text of the exception that was thrown. -/
inductive HttpLifeOp where
  | storeRunning (value : Bool)
  | socket
  | reuseAddress (fd : Int)
  | inetPton (host : Text)
  | bind (fd : Int) (host : Text) (port : UInt16)
  | listen (fd : Int) (backlog : Nat)
  | getsockname (fd : Int)
  | spawn
  | shutdown (fd : Int)
  | close (fd : Int)
  | join
  | strerror
  | log (level : LogLevel) (component message : Text)

abbrev HttpLifeOp.Ans : HttpLifeOp → Type
  | .storeRunning _ => Unit
  | .socket => Int
  | .reuseAddress _ => Unit
  | .inetPton _ => Bool
  | .bind _ _ _ => Int
  | .listen _ _ => Int
  | .getsockname _ => Option UInt16
  | .spawn => Option Text
  | .shutdown _ => Unit
  | .close _ => Unit
  | .join => Unit
  | .strerror => Text
  | .log _ _ _ => Unit

abbrev httpLifeSignature : Signature :=
  ⟨HttpLifeOp, HttpLifeOp.Ans⟩

abbrev HttpLifeCall := Prog httpLifeSignature

/-- The members that `start` and `stop` change. `worker` says whether `worker_` is joinable. -/
structure HttpMembers where
  port : UInt16
  running : Bool := false
  listenFd : Int := -1
  worker : Bool := false

/-- What `start` returns, with `error_message` as it stands then. -/
structure StartResult where
  started : Bool
  errorMessage : Text
deriving DecidableEq

namespace HttpLife

def perform (o : HttpLifeOp) : HttpLifeCall o.Ans :=
  Prog.perform (E := httpLifeSignature) o

def logError (message : Text) : HttpLifeCall Unit :=
  perform (.log .error (ascii "http") message)

/-- The end of `start` when the socket cannot be used. -/
def closeListener (m : HttpMembers) (message : Text) : HttpLifeCall (StartResult × HttpMembers) := do
  logError message
  perform (.close m.listenFd)
  return (⟨false, message⟩, { m with listenFd := -1 })

/-- The part of `start` with a socket that listens. -/
def startWorker (host : Text) (m : HttpMembers) : HttpLifeCall (StartResult × HttpMembers) := do
  let port := (← perform (.getsockname m.listenFd)).getD m.port
  perform (.storeRunning true)
  match ← perform .spawn with
  | some what =>
    perform (.storeRunning false)
    perform (.close m.listenFd)
    logError (ascii "HTTP worker start failed: " ++ what)
    return (⟨false, ascii "HTTP worker start failed: " ++ what⟩, { m with port, listenFd := -1 })
  | none =>
    perform (.log .info (ascii "http") (ascii "server started: " ++ host ++ ascii ":" ++ decimal port.toNat))
    return (⟨true, []⟩, { m with port, running := true, worker := true })

/-- The part of `start` with a socket. -/
def listenOn (host : Text) (m : HttpMembers) : HttpLifeCall (StartResult × HttpMembers) := do
  perform (.reuseAddress m.listenFd)
  if !(← (if host = ascii "localhost" then return true else perform (.inetPton host))) then
    closeListener m (ascii "invalid HTTP IPv4 host: " ++ host)
  else if (← perform (.bind m.listenFd host m.port)) ≠ 0 then
    closeListener m (ascii "bind failed for " ++ host ++ ascii ":" ++ decimal m.port.toNat ++ ascii ": " ++
      (← perform .strerror))
  else if (← perform (.listen m.listenFd 16)) ≠ 0 then
    closeListener m (ascii "listen failed: " ++ (← perform .strerror))
  else
    startWorker host m

def start (host : Text) (m : HttpMembers) : HttpLifeCall (StartResult × HttpMembers) := do
  if m.running then
    return (⟨false, ascii "HTTP server is already running"⟩, m)
  else
    let fd ← perform .socket
    if fd < 0 then
      let message := ascii "socket failed: " ++ (← perform .strerror)
      logError message
      return (⟨false, message⟩, { m with listenFd := fd })
    else
      listenOn host { m with listenFd := fd }

def stop (m : HttpMembers) : HttpLifeCall HttpMembers := do
  perform (.storeRunning false)
  (if m.listenFd ≥ 0 then do
    perform (.shutdown m.listenFd)
    perform (.close m.listenFd)
  else
    return ())
  (if m.worker then perform .join else return ())
  (if m.running then perform (.log .info (ascii "http") (ascii "server stopped")) else return ())
  return { m with running := false, listenFd := if m.listenFd ≥ 0 then -1 else m.listenFd, worker := false }

/-- What the owner of a server asks of it. -/
inductive Request where
  | start
  | stop

/-- The calls of the owner one after the other, and the results of `start`. -/
def serveRequests (host : Text) (m : HttpMembers) : List Request → HttpLifeCall (List StartResult × HttpMembers)
  | [] => return ([], m)
  | .start :: requests => do
    let (result, m) ← start host m
    let (results, m) ← serveRequests host m requests
    return (result :: results, m)
  | .stop :: requests => do
    serveRequests host (← stop m) requests

/-- A server from its constructor to its destructor. -/
def life (host : Text) (port : UInt16) (requests : List Request) : HttpLifeCall (List StartResult × HttpMembers) := do
  let (results, m) ← serveRequests host { port } requests
  return (results, ← stop m)

end HttpLife

end EdgeGateway
