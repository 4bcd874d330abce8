import EdgeGateway.Lib.Linearized
import EdgeGateway.Model.ReliablePublisher
import EdgeGateway.Model.TcpClient

/-!
# The TCP publisher

`TcpPublisher::publish` of `publisher/tcp_publisher.cpp`. Each call holds the mutex, and the client is a member.
-/

namespace EdgeGateway
open CallTree

/-- A call of `publish`. The loop of `send_all` is followed for some passes. -/
structure TcpPublishRequest where
  topic : Text
  payload : Text
  passes : Nat

namespace TcpPublisher

def statusOf (sent : Bool) : PublishStatus :=
  if sent then .published else .failed

/-- What `publish` does while it holds the mutex. The topic is not sent. -/
def publish (q : TcpPublishRequest) : Prog (memberSignature tcpSignature TcpClient) PublishStatus :=
  method (fun c => do
    let (sent, c) ← c.sendJson q.payload q.passes
    return (sent.map statusOf, c))

end TcpPublisher

end EdgeGateway
