import EdgeGateway.Model.DeviceManager
import EdgeGateway.Model.RuntimeStatus
import EdgeGateway.Model.SerialPort

/-!
# The HTTP server

`HttpServer` of `http/http_server.cpp`. Loops that nothing bounds are followed for a number of passes.
-/

namespace EdgeGateway
open CallTree

/-- What `accept` returns, with `errno` as it stands then. -/
structure AcceptAnswer where
  clientFd : Int
  errno : Int := 0

/-- `recv` answers with the bytes received, none of them on an error or at the end of the stream. -/
inductive HttpOp where
  | status (o : StatusOp)
  | loadRunning
  | accept
  | poll (fd : Int)
  | recv (fd : Int) (capacity : Nat)
  | send (fd : Int) (data : List UInt8)
  | close (fd : Int)
  | strerror
  | log (level : LogLevel) (component message : Text)
  | spin

abbrev HttpOp.Ans : HttpOp → Type
  | .status o => o.Ans
  | .loadRunning => Bool
  | .accept => AcceptAnswer
  | .poll _ => PollAnswer
  | .recv _ _ => List UInt8
  | .send _ _ => SendAnswer
  | .close _ => Unit
  | .strerror => Text
  | .log _ _ _ => Unit
  | .spin => Empty

abbrev httpSignature : Signature :=
  ⟨HttpOp, HttpOp.Ans⟩

abbrev HttpCall := Prog httpSignature

namespace HttpCall

def perform (o : HttpOp) : HttpCall o.Ans :=
  Prog.perform (E := httpSignature) o

def spin {α : Type} : HttpCall α :=
  .call (E := httpSignature) .spin Empty.elim

def status {α : Type} (p : StatusCall α) : HttpCall α :=
  p.embed (F := httpSignature) HttpOp.status (fun _ a => a)

end HttpCall

def ebadf : Int := 9
def einval : Int := 22

/-- The members that do not change while the server runs. `statusFirst` is the order in which the compiler
evaluates the arguments of `build_response`, which the language leaves open. -/
structure HttpServer where
  runtimeStatus : RuntimeStatus
  startedAtSeconds : UInt64
  statusFirst : Bool

namespace HttpServer
open HttpCall

def reasonPhrase (statusCode : Nat) : Text :=
  if statusCode = 200 then
    ascii "OK"
  else if statusCode = 404 then
    ascii "Not Found"
  else if statusCode = 503 then
    ascii "Service Unavailable"
  else
    ascii "Internal Server Error"

def buildResponse (statusCode : Nat) (contentType body : Text) : Text :=
  ascii "HTTP/1.1 " ++ decimal statusCode ++ ascii " " ++ reasonPhrase statusCode ++ ascii "\r\n" ++
  ascii "Content-Type: " ++ contentType ++ ascii "\r\n" ++
  ascii "Content-Length: " ++ decimal body.length ++ ascii "\r\n" ++
  ascii "Connection: close\r\n" ++
  ascii "Cache-Control: no-store\r\n\r\n" ++
  body

/-- The loop of `send_all`, followed for some passes. -/
def sendAll (fd : Int) (response : List UInt8) (sent : Nat) : (passes : Nat) → HttpCall Bool
  | 0 => spin
  | passes + 1 =>
    if sent < response.length then do
      let answer ← perform (.send fd (response.drop sent))
      if answer.result < 0 ∧ answer.errno = eintr then
        sendAll fd response sent passes
      else if answer.result ≤ 0 then
        return false
      else
        sendAll fd response (sent + answer.result.toNat) passes
    else
      return true

/-- `find` of a text, and the part before it if it is found. -/
def before (pattern : Text) : Text → Option Text
  | [] => if pattern = [] then some [] else none
  | byte :: rest =>
    if pattern.isPrefixOf (byte :: rest) then some [] else (before pattern rest).map (byte :: ·)

/-- The line that `handle_client` looks at: all of the bytes if they hold no line end. -/
def requestLine (request : List UInt8) : Text :=
  (before (ascii "\r\n") request).getD request

/-- The path of a `GET`, and nothing for other requests. -/
def requestPath (request : List UInt8) : Text :=
  let line := requestLine request
  if (ascii "GET ").isPrefixOf line then
    (before (ascii " ") (line.drop 4)).getD []
  else
    []

def jsonType : Text := ascii "application/json"
def metricsType : Text := ascii "text/plain; version=0.0.4; charset=utf-8"
def notFoundBody : Text := ascii "\x7b\"status\":\"not_found\"\x7d"

/-- The answer to `/ready`. -/
def readyResponse (s : HttpServer) : HttpCall Text := do
  if s.statusFirst then
    let ready ← status RuntimeStatus.ready
    let body ← status s.runtimeStatus.readinessJson
    return buildResponse (if ready then 200 else 503) jsonType body
  else
    let body ← status s.runtimeStatus.readinessJson
    let ready ← status RuntimeStatus.ready
    return buildResponse (if ready then 200 else 503) jsonType body

/-- The answer for a path. -/
def respond (s : HttpServer) (path : Text) : HttpCall Text := do
  if path = ascii "/health" then
    return buildResponse 200 jsonType (← status (s.runtimeStatus.healthJson s.startedAtSeconds))
  else if path = ascii "/ready" then
    s.readyResponse
  else if path = ascii "/metrics" then
    return buildResponse 200 metricsType (← status (RuntimeMetrics.renderPrometheus s.startedAtSeconds))
  else
    return buildResponse 404 jsonType notFoundBody

/-- The loop of `handle_client` around `poll`: whether to go on with the connection. -/
def awaitRequest (clientFd : Int) : (passes : Nat) → HttpCall Bool
  | 0 => spin
  | passes + 1 => do
    if ← perform .loadRunning then
      let answer ← perform (.poll clientFd)
      if answer.result > 0 then
        return true
      else if answer.result < 0 ∧ answer.errno ≠ eintr then
        return false
      else
        awaitRequest clientFd passes
    else
      return true

/-- `sizeof(request_buffer) - 1`. -/
def requestCapacity : Nat := 4095

/-- The part of `handle_client` with a request. -/
def answerRequest (s : HttpServer) (clientFd : Int) (request : List UInt8) (passes : Nat) : HttpCall Unit := do
  let path := requestPath request
  perform (.log .debug (ascii "http")
    (ascii "request path=" ++ if path = [] then ascii "<invalid>" else path))
  let response ← s.respond path
  if !(← sendAll clientFd response 0 passes) then
    perform (.log .debug (ascii "http") (ascii "response send failed"))

def handleClient (s : HttpServer) (clientFd : Int) (passes : Nat) : HttpCall Unit := do
  if ← awaitRequest clientFd passes then
    if ← perform .loadRunning then
      let request ← perform (.recv clientFd requestCapacity)
      if request ≠ [] then
        s.answerRequest clientFd request passes

/-- `serve`. Its own loop and the loops inside of it are followed for some passes each. -/
def serve (s : HttpServer) (inner : Nat) : (passes : Nat) → HttpCall Unit
  | 0 => spin
  | passes + 1 => do
    if ← perform .loadRunning then
      let answer ← perform .accept
      if answer.clientFd < 0 then
        if answer.errno = eintr then
          s.serve inner passes
        else if !(← perform .loadRunning) || answer.errno = ebadf || answer.errno = einval then
          return ()
        else
          perform (.log .warn (ascii "http") (ascii "accept failed: " ++ (← perform .strerror)))
          s.serve inner passes
      else
        s.handleClient answer.clientFd inner
        perform (.close answer.clientFd)
        s.serve inner passes
    else
      return ()

end HttpServer

end EdgeGateway
