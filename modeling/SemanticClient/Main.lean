import SemanticClient.CommandLine.Run
import SemanticClient.Session.Http
import Std.Async.DNS
import Std.Async.TCP

/-!
# The command line

Reads the words and the environment, runs the command that they make, and prints its report.
-/

namespace SemanticClient.CommandLine

open Std.Async Std.Net

/-- Short help. -/
def usageText : String :=
  "Usage: semantic-client [--serv URL] [--conn ID] [-f text|json] [-v] " ++
    "<compile -t SPEC [-o ORDER] [-a ARGS] | login | query -t SPEC [-o ORDER] [-a ARGS] " ++
    "[--page N] [--size N] | ping> [-u UID] [-p PSWD]"

/-- All bytes up to the end of a connection. -/
partial def receiveAll (socket : TCP.Socket.Client) (received : ByteArray) : Async ByteArray := do
  match ← socket.recv? 65536 with
  | some bytes => receiveAll socket (received ++ bytes)
  | none => return received

/-- The address of a host. -/
def socketAddress (address : IPAddr) (port : UInt16) : SocketAddress :=
  match address with
  | .v4 a => .v4 ⟨a, port⟩
  | .v6 a => .v6 ⟨a, port⟩

/-- Sends a text to an endpoint; the bytes that come back. -/
def converse (e : Endpoint) (request : String) : Async ByteArray := do
  let addresses ← DNS.getAddrInfo e.host ""
  match addresses[0]? with
  | none => throw (IO.userError ("unknown host " ++ e.host))
  | some address =>
    let socket ← TCP.Socket.Client.mk
    socket.connect (socketAddress address (UInt16.ofNat e.port))
    socket.send request.toUTF8
    receiveAll socket ByteArray.empty

/-- One exchange with a server. -/
def exchange (s : Sending) : IO Answer := do
  match Endpoint.ofUrl? s.url with
  | none => return .error (.http ("unsupported address " ++ s.url))
  | some e =>
    try
      match String.fromUTF8? (← (converse e (e.requestText s.payload)).block) with
      | some text => return .ofText text
      | none => return .error (.http "the answer is no text")
    catch err => return .error (.http err.toString)

/-- Carries a dialogue on to its result. -/
def carryOn {α : Type} : Dialogue α → IO α
  | .done a => return a
  | .ask sending next => do carryOn (next (← exchange sending))

/-- The random choices of a run. -/
def draw : IO Draws := do
  let iv := (Crypto.Block.ofBytesOne? (← IO.getRandomBytes 16).toList).getD
    ⟨⟨0, 0, 0, 0⟩, ⟨0, 0, 0, 0⟩, ⟨0, 0, 0, 0⟩, ⟨0, 0, 0, 0⟩⟩
  return ⟨iv, Fin.ofNat 1001 (← IO.rand 0 1000), Fin.ofNat 1001 (← IO.rand 0 1000)⟩

/-- The variables of the environment that options come from. -/
def readEnvironment : IO Values := do
  let mut values : Values := []
  for name in ["JSERV_ROOT", "JSERV_CONN", "JSERV_UID", "JSERV_PSWD"] do
    if let some value ← IO.getEnv name then values := Keyed.insert name value values
  return values

end SemanticClient.CommandLine

open SemanticClient.CommandLine

/-- The program. -/
def main (words : List String) : IO UInt32 := do
  match parse words (← readEnvironment) with
  | .error .help =>
    IO.println usageText
    return 0
  | .error .usage =>
    IO.eprintln usageText
    return 2
  | .ok invocation =>
    let report ← carryOn (run invocation (← draw))
    IO.print report.printed.output
    IO.eprint report.printed.errors
    return UInt32.ofNat report.exitCode
