import Rtnetlink.Os.Machine
import Rtnetlink.Session.Answer

/-!
# Sessions on a socket of the machine

Opening a session creates a routing socket, binds it to a port id that the kernel assigns, and asks
for that port id.  The socket is closed again if a later step fails or halts.  What a session does
on its channel are system calls on its socket.
-/

namespace Rtnetlink

namespace Machine

/-- The protocol family of the routing sockets. -/
def routingFamily : Nat := 16

/-- Creates a routing socket. -/
def openRoutingSocket : Run Errno Machine Nat :=
  recognized
    (callForDescriptor .openSocket (.openSocket routingFamily (closeOnExec + 3) 0))

/-- Binds a routing socket to a port id that the kernel chooses. -/
def bindSocket (socket : Nat) : Run Errno Machine Unit :=
  recognized (call .bindSocket (.bindSocket socket routingFamily 0 0))

/-- Takes the port id that the next socket is assigned. -/
def takePortId : Run CallCode Machine UInt32 := fun m =>
  match m.portIds with
  | [] => .ok m.lastPortId m
  | portId :: portIds => .ok portId { m with portIds }

/-- The port id of a socket.  A port id is taken even if it cannot be read. -/
def socketPortId (socket : Nat) : Run Errno Machine UInt32 :=
  recognized do
    let portId ← takePortId
    call .socketName (.socketName socket)
    pure portId

/-- The system call that an exchange on a socket is. -/
def ofExchange (socket : Nat) : Exchange → SystemCall
  | .sent message code =>
    .sendTo socket message 0 routingFamily 0 0 (if code = 0 then message.length else -code)
  | .received room result => .receiveFrom socket room 0 result

end Machine

/-- A session together with its socket. -/
structure BoundSession where
  /-- The session. -/
  session : Session
  /-- The descriptor of its socket. -/
  socket : Nat

namespace BoundSession

/-- Opens a session in the calling thread's namespace. -/
def connect (options : SessionOptions) : Run SessionError Machine BoundSession := do
  let socket ← Run.mapCause (.setup .socket) Machine.openRoutingSocket
  match ← Run.attempt (Machine.bindSocket socket) with
  | .error errno => do
    Machine.release socket
    Run.refuse (.setup .bind errno)
  | .ok () => do
    match ← Run.attempt (Machine.socketPortId socket) with
    | .error errno => do
      Machine.release socket
      Run.refuse (.setup .portName errno)
    | .ok portId =>
      match Session.ofChannel? {} portId options with
      | some session => pure { session, socket }
      | none => do
        Machine.release socket
        Run.halt .tooLarge

/-- Closes a session; a failure is reported. -/
def close (b : BoundSession) : Run SessionError Machine Unit :=
  Run.mapCause .io (Machine.recognized (Machine.closeFile b.socket))

/-- The session, with what the calls on its socket will do on a machine. -/
def onChannel (b : BoundSession) (m : Machine) : Session :=
  { b.session with
    channel :=
      { sendCodes := m.codes .sendTo, deliveries := m.deliveries, drained := m.drained } }

/-- The machine after a session has used its socket: what was not used up is still to come, and
every exchange was a system call. -/
def machineAfter (b : BoundSession) (session : Session) (m : Machine) : Machine :=
  { m with
    codes := fun name => if name = .sendTo then session.channel.sendCodes else m.codes name
    deliveries := session.channel.deliveries
    log := m.log ++ session.channel.log.map (Machine.ofExchange b.socket) }

/-- Does something with the session of a socket of the machine. -/
def converse {ε α : Type} (run : Run ε Session α) : Run ε (Machine × BoundSession) α :=
  Run.within (fun (m, b) => b.onChannel m)
    (fun session (m, b) => (b.machineAfter session m, { b with session })) run

end BoundSession

end Rtnetlink
