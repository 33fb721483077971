import AdminConsole.PathName
import AdminConsole.CommandLine.Program
import AdminConsole.Http.Wire
import Std.Async.DNS
import Std.Async.TCP
import Std.Async.Timer
import Std.Internal.UV.System
import Std.Time

/-!
# The program on a real machine

The machine as the program sees it, and the program's entry point. Requests go out over plain TCP:
an address that asks for encryption cannot be reached. Nothing is read that is typed unseen, so a
password has to come from the environment.
-/

namespace AdminConsole.CommandLine

open AdminConsole.Time Std.Async Std.Net

/-! ### Files -/

/-- The number that the system gives for a path that leads through something that is no
directory. -/
def notADirectoryCode : UInt32 := 20

/-- What is found under the name of a file. What is there and cannot be read is taken for a
directory. -/
def findNode (path : String) : IO FileNode := do
  try
    return .ofBytes (← IO.FS.readBinFile path).toList
  catch
    | .noFileOrDirectory .. => return .absent
    | .inappropriateType _ code _ =>
      return if code = notADirectoryCode then .blocked else .directory
    | _ => return .directory

/-- Readable and writable for the user alone. -/
def ownerOnly : IO.FileRight := { user := { read := true, write := true } }

/-- The directory that something lies in, given the one that relative paths start from. -/
def parentIn (directory path : String) : String :=
  PathName.ofParts ((PathName.partsIn directory path).drop 1)

/-- Changes what is found under the name of a file. A failure of the system is not heeded. -/
def replaceNode (directory path : String) (node : FileNode) : IO Unit := do
  try
    match node with
    | .absent => IO.FS.removeFile path
    | .text s =>
      IO.FS.createDirAll (parentIn directory path)
      if (PathName.parts path).head? = some FileBackend.fileName then
        discard (IO.FS.Handle.mk path .append)
        IO.setAccessRights path ownerOnly
      IO.FS.writeFile path s
    | .binary _ | .directory | .blocked => pure ()
  catch _ => pure ()

/-- Opens a log file, making the directory it lies in. -/
def openLogFile (directory path : String) : IO Bool := do
  try
    IO.FS.createDirAll (parentIn directory path)
    discard (IO.FS.Handle.mk (PathName.ofParts (PathName.partsIn directory path)) .append)
    return true
  catch _ => return false

/-- The text of the environment file in a directory or the nearest one it lies in. -/
def findEnvironmentFile : List String → IO (Option String)
  | [] => return none
  | directory :: rest => do
    match ← findNode (directory ++ "/.env") with
    | .text s => return some s
    | _ => findEnvironmentFile rest

/-! ### The network -/

/-- All that comes in until the connection is closed. -/
partial def receiveAll (socket : TCP.Socket.Client) (received : ByteArray) : Async ByteArray := do
  match ← socket.recv? 65536 with
  | some bytes => receiveAll socket (received ++ bytes)
  | none => return received

/-- Where a service of a host is reached. -/
def socketAddress (address : IPAddr) (service : UInt16) : SocketAddress :=
  match address with
  | .v4 a => .v4 ⟨a, service⟩
  | .v6 a => .v6 ⟨a, service⟩

/-- Sends a text to the host of a URL and gives what comes back. -/
def exchange (url : Url) (text : String) : Async (Except Wire.WireFault Response) := do
  let some host := url.host? | return .error (.unreachable url)
  let some service := url.service? | return .error (.unreachable url)
  let addresses ← DNS.getAddrInfo host.bareText (Text.natText service)
  let some address := addresses[0]? | return .error (.unreachable url)
  let socket ← TCP.Socket.Client.mk
  socket.connect (socketAddress address service.toUInt16)
  socket.send text.toUTF8
  match Wire.response? (← receiveAll socket .empty).toList with
  | some response => return .ok response
  | none => return .error (.garbled url)

/-- The longest time to wait for an answer, in milliseconds: a year. -/
def longestWait : Nat := 31536000000

/-- Sends a request and waits for its answer, for as long as the settings allow. -/
def sendOverNetwork (settings : Settings) (request : Request) :
    IO (Except ApiError Response) := do
  match Wire.destination settings.baseUrl request with
  | .error fault => return .error fault.toError
  | .ok url =>
    if url.scheme ≠ "http" then return .error (Wire.WireFault.unreachable url).toError
    let failed : Except Wire.WireFault Response := .error (.unreachable url)
    let late : Except Wire.WireFault Response := .error (.timedOut url)
    let answered : Async (Except Wire.WireFault Response) := do
      try exchange url (Wire.requestText url request)
      catch _ => return failed
    let expired : Async (Except Wire.WireFault Response) := do
      sleep (.ofNat (min (settings.requestTimeout.toNat * 1000) longestWait))
      return late
    haveI : Inhabited (Except Wire.WireFault Response) := ⟨failed⟩
    match ← (Async.race answered expired).block with
    | .ok response => return .ok response
    | .error fault => return .error fault.toError

/-! ### Running -/

/-- The present moment. -/
def presentMoment : IO Moment := do
  let t ← Std.Time.Timestamp.now
  let n := t.toNanosecondsSinceUnixEpoch.val
  return .ofSeconds (n / 1000000000) (n % 1000000000).toNat

/-- The home directory that the system has on record for the user. -/
def recordedHome? : IO (Option String) := do
  try return (← Std.Internal.UV.System.osGetPasswd).homedir
  catch _ => return none

/-- The machine, given the directory that relative paths start from. -/
def machine (directory : String) : Host IO where
  environmentFile := findEnvironmentFile (PathName.ancestors directory)
  say s := do
    let out ← IO.getStdout
    out.putStr s
    out.flush
  warn s := IO.eprintln s
  readLine := do
    try return some (← (← IO.getStdin).getLine)
    catch _ => return none
  readPassword _ := return none
  find := findNode
  replace := replaceNode directory
  openLog := openLogFile directory
  send := sendOverNetwork

end AdminConsole.CommandLine

open AdminConsole CommandLine in
/-- Runs the program with the arguments of the command line. -/
def main (args : List String) : IO UInt32 := do
  let directory := toString (← IO.currentDir)
  let environment : Environment :=
    { entries := (← Std.Internal.UV.System.osEnviron).toList, recordedHome := ← recordedHome? }
  let code ← run (machine directory) (← presentMoment) environment args
  return code.toNat.toUInt32
