import EngineClient.Client
import EngineClient.CommandLine.Console

/-!
The command line over the standard streams. The engine's streams are descriptors that whoever launches
the client connects: descriptor 3 carries frames of the engine, descriptor 4 takes frames for it.
-/

namespace EngineClient.CommandLine

structure Streams where
  fromEngine : IO.FS.Handle
  toEngine : IO.FS.Handle

def openStreams : IO Streams := do
  return ⟨← IO.FS.Handle.mk "/dev/fd/3" .read, ← IO.FS.Handle.mk "/dev/fd/4" .write⟩

def linkError (settings : Settings) (detail : String) : Link.Error :=
  match settings.kind with
  | .process => .spawn settings.program detail
  | .socket => .connect settings.address detail

def printAll : List Printed → IO (Option UInt32)
  | [] => return none
  | .output text :: rest => do
    (← IO.getStdout).putStr text
    printAll rest
  | .errors text :: rest => do
    (← IO.getStderr).putStr text
    printAll rest
  | .exit code :: _ => return some code

def showOutput (streams : Option Streams) (console : Console) (output : Client.Output) :
    IO (Console × Option UInt32) := do
  match output with
  | .poured _ bytes =>
    if let some streams := streams then
      streams.toEngine.write (ByteArray.mk bytes.toArray)
      streams.toEngine.flush
    return (console, none)
  | .effect (.delivered message) =>
    let (console, printed) := console.deliver message
    return (console, ← printAll printed)
  | .effect (.settled settlement) =>
    let (console, printed) := console.settle settlement.outcome
    return (console, ← printAll printed)
  | _ => return (console, none)

/-- Moves the client, and waits for the engine whenever it is idle. -/
partial def converse (streams : Option Streams) (attempt : Link.Attempt) (console : Console)
    (client : Client) : IO UInt32 := do
  match client.nextMove? attempt with
  | some move =>
    let (next, outputs) := client.perform move
    let mut console := console
    for output in outputs do
      let (after, code) ← showOutput streams console output
      if let some code := code then return code
      console := after
    converse streams attempt console next
  | none =>
    match streams, client.link with
    | some handles, some _ =>
      let chunk ← handles.fromEngine.read (USize.ofNat Link.Reader.chunkLimit)
      let arrival : Link.Arrival :=
        if chunk.isEmpty then .ended .disconnected else .bytes chunk.toList
      converse streams attempt console (client.perform (.arrive arrival)).1
    | _, _ => return 0

def installedEngine? (environment : String → Option String) : IO (Option String) := do
  let some directory := (← IO.appPath).parent | return none
  let beside := directory / Settings.defaultProgram
  if ← beside.pathExists then return some beside.toString
  let some programs := Settings.userDirectory? environment | return none
  let path := directory / programs / Settings.defaultProgram
  if ← path.pathExists then return some path.toString else return none

def start (settings : Settings) (invocation : Invocation) : IO UInt32 := do
  let opened ← openStreams.toBaseIO
  let (streams, attempt) : Option Streams × Link.Attempt := match opened with
    | .ok streams => (some streams, .ok .silent)
    | .error error => (none, .error (linkError settings (toString error)))
  let millis := UInt64.ofNat (← IO.monoMsNow)
  let client :=
    Client.new (Call.clientPrefix millis 0) settings.kind settings.policy (← IO.monoNanosNow)
  converse streams attempt (.start invocation) (client.perform (.send invocation.request)).1

end EngineClient.CommandLine

open EngineClient in
def main (arguments : List String) : IO UInt32 := do
  let names := [Settings.kindVariable, Settings.programVariable, Settings.addressVariable,
    Settings.programsVariable, Settings.homeVariable]
  let found ← names.mapM fun name => return (name, ← IO.getEnv name)
  let lookUp (name : String) : Option String := (found.lookup name).join
  match CommandLine.prepare lookUp (← CommandLine.installedEngine? lookUp) arguments with
  | .error failure => return (← CommandLine.printAll [.errors failure.report, .exit 1]).getD 1
  | .ok (settings, invocation) => CommandLine.start settings invocation
