import StageRelay.CommandLine.Execute
import StageRelay.Gateway.Connection
import StageRelay.Gateway.RequestId
import StageRelay.Http.Outgoing
import StageRelay.Http.Redirects
import StageRelay.Pipeline.Replay
import StageRelay.Services.Stamp
import Std.Async.DNS
import Std.Async.TCP
import Std.Async.Timer
import Std.Time.DateTime.Timestamp

/-!
# The program

The outer layer: it looks at files and the environment, sends and receives bytes,
and prints. What it does with them is said by the rest of the library. Runs and
requests are replayed from the start with every answer from the network, so the
library decides each time what is to be asked next.
-/

open Std.Async Std.Net

namespace StageRelay.Program

/-! ## Files -/

/-- The failure that an error of the system reports. -/
def failure : IO.Error → FileError
  | .noFileOrDirectory .. => .notFound
  | .permissionDenied .. => .denied
  | .inappropriateType .. => .notDirectory
  | .invalidArgument _ 40 _ => .tooManyLinks
  | e => .failed (toString e)

/-- What is open, with its content if that is wanted. A directory can be opened, but not
read, and this is how it is told from a file. -/
def content (whole : Bool) (h : IO.FS.Handle) : IO FileEntry := do
  try
    if whole then return .file (← h.readBinToEnd)
    else
      discard (h.read 1)
      return .file .empty
  catch
    | .inappropriateType .. => return .directory
    | e => throw e

/-- What stands at a path, or why it cannot be opened. -/
def look (whole : Bool) (path : String) : IO (Except FileError FileEntry) := do
  try return .ok (← content whole (← IO.FS.Handle.mk path .read))
  catch e => return .error (failure e)

def isThere (path : String) : IO Bool := do
  try
    discard (IO.FS.realPath path)
    return true
  catch _ => return false

/-- The tree with what stands at a path, and with what the system refuses there. What
cannot be opened is a directory unless the system says that nothing can be below it. -/
def addPlace (whole : Bool) (t : FileTree) (place : List String) (path : String) :
    IO FileTree := do
  match ← look whole path with
  | .ok .directory =>
    let t := t.put place .directory
    match ← look false (path ++ "/.") with
    | .error .denied => return t.refuse place .search .denied
    | _ => return t
  | .ok e => return t.put place e
  | .error .notFound => return t
  | .error e =>
    if ← isThere path then
      let entry ← match ← look false (path ++ "/.") with
        | .error .notDirectory => pure (.file .empty)
        | _ => pure .directory
      return (t.put place entry).refuse place .read e
    else return t.refuse place .look e

/-- Adds what stands on the way to a path, component by component, so that the tree
answers questions about the path as the system does. -/
def addPath (whole : Bool) (t : FileTree) (path : String) : IO FileTree := do
  let mut tree := t
  let mut place := t.origin path
  let mut text := if Text.startsWith path "/" then "/" else ""
  for c in FilePath.components path do
    text := text ++ c
    if c = ".." then place := place.dropLast
    else if c ≠ "" ∧ c ≠ "." then
      place := place ++ [c]
      tree ← addPlace whole tree place text
      if tree.entry? place ≠ some .directory then return tree
    text := text ++ "/"
  return tree

/-- The files on the way to some paths, in a tree that starts from the working directory
of the program. -/
def filesAt (whole : Bool) (paths : List String) : IO FileTree := do
  let working := (FilePath.components (toString (← IO.currentDir))).filter (· ≠ "")
  let start := { FileTree.empty.put working .directory with working := working }
  paths.foldlM (addPath whole) start

/-- Adds text at the end of a file, making the directories on the way. It says false
when this is not possible, and nothing is known of the file then. -/
def appendTo (path text : String) : IO Bool := do
  try
    let parent := Text.join "/" (FilePath.components path).dropLast
    if parent ≠ "" then IO.FS.createDirAll parent
    (← IO.FS.Handle.mk path .append).write text.toUTF8
    return true
  catch _ => return false

/-! ## Surroundings -/

def environment : IO Environment := do
  return ⟨← IO.getEnv "APIX_CONFIG", (← IO.getEnv "HOME").filter (· ≠ "")⟩

def temporary : IO String := do return (← IO.getEnv "TMPDIR").getD "/tmp"

/-- The surroundings of a command. Only the files that it may read are looked at, and
services are called in another way, request by request. -/
def surroundings (c : CommandLine.Command) : IO CommandLine.Surroundings := do
  let env ← environment
  return {
    files := ← filesAt true (c.paths env)
    environment := env
    temporary := ← temporary
    client := .overNetwork .usual .unreachable
    refusal := fun _ => none }

def explain (_ : ByteArray) : String := "malformed JSON"

def moment : IO Moment := do
  let now := (← Std.Time.Timestamp.now).toNanosecondsSinceUnixEpoch.val.toNat
  let name ← IO.getRandomBytes 16
  return ⟨Stamp.text (now / 1000000000) (now % 1000000000), RequestId.text name.toList, explain⟩

/-! ## The network -/

def withPort (port : Nat) : IPAddr → SocketAddress
  | .v4 a => .v4 ⟨a, port.toUInt16⟩
  | .v6 a => .v6 ⟨a, port.toUInt16⟩

def addresses (host : String) (port : Nat) : Async (List SocketAddress) := do
  let bare := String.ofList (host.toList.filter fun c => c ≠ '[' ∧ c ≠ ']')
  let found ← DNS.getAddrInfo bare (toString port)
  return found.toList.map (withPort port)

def portion : UInt64 := 65536

/-- Receives bytes until there are at least some number more, or the connection ends. It
also says whether it has ended. -/
partial def receive (s : TCP.Socket.Client) (bytes : ByteArray) (more : Nat) :
    Async (ByteArray × Bool) := do
  match ← s.recv? portion with
  | none => return (bytes, true)
  | some b =>
    let bytes := bytes ++ b
    if more ≤ b.size then return (bytes, false) else receive s bytes (more - b.size)

partial def receiveResponse (s : TCP.Socket.Client) (r : WireRequest) (bytes : ByteArray) :
    Async (Option WireResponse) := do
  match WireResponse.ofBytes r false bytes with
  | .complete response => return some response
  | .broken => return none
  | .waiting more =>
    match ← receive s bytes more with
    | (bytes, false) => receiveResponse s r bytes
    | (bytes, true) => return (WireResponse.ofBytes r true bytes).closed

/-- Asks one server. Only plain connections can be made. -/
def ask (r : WireRequest) : Async (Option WireResponse) := do
  if r.url.scheme ≠ "http" then return none
  try
    let host := (r.url.host.map Host.text).getD ""
    for address in ← addresses host r.url.effectivePort do
      let s ← TCP.Socket.Client.mk
      let connected ← try s.connect address; pure true catch _ => pure false
      if connected then
        s.send r.toBytes
        let response ← receiveResponse s r .empty
        try s.shutdown catch _ => pure ()
        return response
    return none
  catch _ => return none

/-- Sends a request, and follows where the responses point to. What is to be sent next
is what the model asks for after the responses that it has been given. -/
partial def exchange (c : Correspondence) (r : HttpRequest) :
    Async (Except ClientError Answer) := do
  let (sent, result) := Client.exchange .usual (.replay c) r
  match c.pending? sent with
  | none => return result
  | some next => exchange ((next, ← ask next) :: c) r

/-- Does something that may take a number of milliseconds. What takes longer goes on
without anyone waiting for it. -/
def within (limit : Option Nat) (action : Async (Except ClientError Answer)) :
    Async (Except ClientError Answer) :=
  match limit with
  | none => action
  | some ms => Async.race action do
      sleep (.ofNat (ms + 1))
      return .error (.transport "no answer in time")

def makeCall (limit : Option Nat) (c : Call) : Async (Reaction (Except CallError Answer)) := do
  let start ← IO.monoMsNow
  let result ← within limit (exchange [] c.httpRequest)
  return ⟨result.mapError CallError.ofClient, (← IO.monoMsNow) - start, false⟩

/-- Goes on with something that calls services until no call is pending. Each time it
starts from the beginning, with one reaction more to replay. -/
partial def meetCalls {α : Type} (settings : PipelineSettings)
    (attempt : Invoker → α × Session) (t : Transcript) : Async α := do
  let (result, session) := attempt (.replay t)
  match session.pending? t with
  | none => return result
  | some call =>
    meetCalls settings attempt (t ++ [← makeCall (session.pendingLimit settings) call])

/-! ## Commands -/

def finish (e : CommandLine.Exit) : IO UInt32 := do
  IO.print e.output
  IO.eprint e.errors
  return e.code.toUInt32

def finishWith (r : Except CommandLine.CommandError String) : IO UInt32 :=
  finish (.ofEffect (.ofResult r))

def run (w : CommandLine.Surroundings) (a : CommandLine.RequestArguments) : IO UInt32 := do
  match CommandLine.prepareRun w a with
  | .error e => finishWith (.error e)
  | .ok (p, r) =>
    let attempt := fun invoke => p.handle .standard invoke r (.start none)
    let result ← Async.block (meetCalls p.settings attempt [])
    finishWith (CommandLine.reportOf result)

/-- Answers a request. What the store service adds is written when all else is
done; if that fails the request is answered as for a file that cannot be written. -/
def answer (g : Gateway) (r : Inbound) : Async Response := do
  let m ← moment
  let path := g.store.getD ""
  let files ← filesAt false g.store.toList
  let attempt := fun invoke =>
    let (response, s) := g.answer invoke m r ⟨.start none, files⟩
    ((response, s.files), s.session)
  let (response, files) ← meetCalls g.pipeline.settings attempt []
  match files.readText path with
  | .error _ | .ok "" => return response
  | .ok text =>
    if ← appendTo path text then return response
    else
      let closed := { FileTree.empty with refusal? := fun _ _ => some .denied }
      return (g.answer (.replay []) m r ⟨.start none, closed⟩).1

/-- Answers the requests on a connection. -/
partial def converse (g : Gateway) (s : TCP.Socket.Client) (bytes : ByteArray) : Async Unit := do
  match Delivery.read bytes.toList with
  | .broken => s.send (Response.malformed.toBytes "" true)
  | .waiting more =>
    match ← receive s bytes more with
    | (bytes, false) => converse g s bytes
    | (_, true) => return
  | .complete (d, rest) =>
    let response ← answer g d.request
    s.send (response.toBytes d.request.method d.isLast)
    if !d.isLast then converse g s rest.toByteArray

def attend (g : Gateway) (s : TCP.Socket.Client) : Async Unit := do
  try converse g s .empty catch _ => pure ()
  try s.shutdown catch _ => pure ()

def acceptAll (g : Gateway) (s : TCP.Socket.Server) : Async Unit := do
  while true do
    let connection ← s.accept
    background (attend g connection)

def listenAt (address : SocketAddress) : Async (Except String TCP.Socket.Server) := do
  try
    let s ← TCP.Socket.Server.mk
    s.bind address
    s.listen 1024
    return .ok s
  catch e => return .error (toString e)

/-- Listens at the first of some addresses that can be listened at. -/
def listenAtAny (refusal : String) : List SocketAddress → Async (Except String TCP.Socket.Server)
  | [] => return .error refusal
  | address :: others => do
    match ← listenAt address with
    | .ok s => return .ok s
    | .error reason => listenAtAny reason others

def listen (host : String) (port : Nat) : Async (Except String TCP.Socket.Server) := do
  try listenAtAny "no address found" (← addresses host port)
  catch e => return .error (toString e)

def serve (w : CommandLine.Surroundings) (a : CommandLine.ServeArguments) : IO UInt32 := do
  match CommandLine.prepare w a with
  | .error e => finishWith (.error e)
  | .ok (g, settings) =>
    match ← Async.block (listen settings.host settings.port.toNat) with
    | .error reason => finishWith (.error (.address settings.address reason))
    | .ok s =>
      Async.block (acceptAll g s)
      return 0

/-- Reads the words of the command line and does what they say. -/
def start (words : List String) : IO UInt32 := do
  match CommandLine.parse words with
  | .error i => finish (.ofInterruption i)
  | .ok i =>
    let w ← surroundings i.command
    match i.command with
    | .serve a => serve w a
    | .run a => run w a
    | c => finish (.ofEffect (CommandLine.execute w c))

end StageRelay.Program

def main (words : List String) : IO UInt32 := StageRelay.Program.start words
