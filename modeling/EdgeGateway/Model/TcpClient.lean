import EdgeGateway.Lib.CallTree
import EdgeGateway.Model.Text

/-!
# The TCP client

`TcpClient` of `tcp/tcp_client.cpp`, over the socket calls it makes. The loop of `send_all` goes round
again whenever `send` was interrupted, so nothing bounds it: it is followed for a number of passes, and
`none` says that it still runs after them.
-/

namespace EdgeGateway
open CallTree

/-- The fields of an `addrinfo` that the client passes on. -/
structure AddrInfo where
  family : Int
  socktype : Int
  protocol : Int
  addr : List UInt8

/-- What `send` returns, with `errno` as it stands then. -/
structure SendAnswer where
  result : Int
  errno : Int := 0

def eintr : Int := 4

/-- `getaddrinfo` answers with the text of its error or the list of addresses, `strerror` with the text
for `errno`. -/
inductive TcpOp where
  | getaddrinfo (host port : Text)
  | socket (address : AddrInfo)
  | connect (fd : Int) (address : AddrInfo)
  | send (fd : Int) (data : List UInt8)
  | close (fd : Int)
  | strerror
  | print (line : Text)

abbrev TcpOp.Ans : TcpOp → Type
  | .getaddrinfo _ _ => Except Text (List AddrInfo)
  | .socket _ => Int
  | .connect _ _ => Int
  | .send _ _ => SendAnswer
  | .close _ => Unit
  | .strerror => Text
  | .print _ => Unit

abbrev tcpSignature : Signature :=
  ⟨TcpOp, TcpOp.Ans⟩

structure TcpClient where
  host : Text
  port : UInt16
  socketFd : Int := -1

namespace TcpClient

abbrev Call := Prog tcpSignature

def getaddrinfo (host port : Text) : Call (Except Text (List AddrInfo)) :=
  .perform (E := tcpSignature) (.getaddrinfo host port)

def socket (address : AddrInfo) : Call Int :=
  .perform (E := tcpSignature) (.socket address)

def connect (fd : Int) (address : AddrInfo) : Call Int :=
  .perform (E := tcpSignature) (.connect fd address)

def send (fd : Int) (data : List UInt8) : Call SendAnswer :=
  .perform (E := tcpSignature) (.send fd data)

def close (fd : Int) : Call Unit :=
  .perform (E := tcpSignature) (.close fd)

def strerror : Call Text :=
  .perform (E := tcpSignature) .strerror

def print (line : Text) : Call Unit :=
  .perform (E := tcpSignature) (.print line)

def isConnected (c : TcpClient) : Bool :=
  c.socketFd ≥ 0

/-- The loop of `connect_to_server` over the addresses: the descriptor of the first one that accepts the
connection. -/
def connectFirst : List AddrInfo → Call Int
  | [] => return -1
  | current :: addresses => do
    let candidateFd ← socket current
    if candidateFd < 0 then
      connectFirst addresses
    else if (← connect candidateFd current) = 0 then
      return candidateFd
    else
      close candidateFd
      connectFirst addresses

/-- The client's address as its messages show it. -/
def address (c : TcpClient) : Text :=
  c.host ++ ascii ":" ++ decimal c.port.toNat

def connectToServer (c : TcpClient) : Call (Bool × TcpClient) := do
  if c.isConnected then
    return (true, c)
  else
    match ← getaddrinfo (cString c.host) (decimal c.port.toNat) with
    | .error error =>
      print (ascii "[ERROR] TCP address lookup failed: " ++ error)
      return (false, c)
    | .ok addresses =>
      let socketFd ← connectFirst addresses
      let c := { c with socketFd := socketFd }
      if c.isConnected then
        print (ascii "[INFO] TCP connected: " ++ c.address)
        return (true, c)
      else
        print (ascii "[ERROR] TCP connection failed: " ++ c.address)
        return (false, c)

def disconnect (c : TcpClient) : Call TcpClient := do
  if c.isConnected then
    close c.socketFd
    print (ascii "[INFO] TCP disconnected")
    return { c with socketFd := -1 }
  else
    return c

/-- The loop of `send_all`, followed for some passes. -/
def sendAll (c : TcpClient) (data : List UInt8) (sentBytes : Nat) : (passes : Nat) → Call (Option Bool)
  | 0 => return none
  | passes + 1 =>
    if sentBytes < data.length then do
      let answer ← send c.socketFd (data.drop sentBytes)
      if answer.result < 0 then
        if answer.errno = eintr then
          c.sendAll data sentBytes passes
        else
          return some false
      else if answer.result = 0 then
        return some false
      else
        c.sendAll data (sentBytes + answer.result.toNat) passes
    else
      return some true

/-- The part of `send_json` with a connection. -/
def sendMessage (c : TcpClient) (message : Text) (passes : Nat) : Call (Option Bool × TcpClient) := do
  match ← c.sendAll message 0 passes with
  | none => return (none, c)
  | some false =>
    print (ascii "[ERROR] TCP send failed: " ++ (← strerror))
    return (some false, ← c.disconnect)
  | some true =>
    print (ascii "[INFO] TCP send ok, bytes=" ++ decimal message.length)
    return (some true, c)

/-- `send_json`, whose loop is followed for some passes: `none` if it has not returned by then. -/
def sendJson (c : TcpClient) (json : Text) (passes : Nat) : Call (Option Bool × TcpClient) := do
  let (connected, c) ← (if c.isConnected then return (true, c) else c.connectToServer)
  if connected then
    c.sendMessage (json ++ ascii "\n") passes
  else
    return (some false, c)

end TcpClient

end EdgeGateway
