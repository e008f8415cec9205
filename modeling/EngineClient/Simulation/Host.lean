import EngineClient.CommandLine.Console
import EngineClient.Simulation.Action
import EngineClient.Simulation.Session

/-!
A host that runs the command line next to a scripted engine. What else the host holds, and what comes of
opening a link to it, is given with the host.
-/

namespace EngineClient.Simulation

structure Host where
  arguments : List String
  lookUp : String → Option String
  /-- The engine beside the client or in the user's directory of programs. -/
  installed? : Option String
  /-- Whether a link that is opened under the settings leads to the engine. -/
  isEngine : Settings → Bool
  script : Script
  /-- What another peer does, or why there is none. -/
  elsewhere : Settings → Except Link.Error Script

structure Transcript where
  printed : List CommandLine.Printed
  requests : List Frame
  /-- The arguments of an engine that was spawned. -/
  engineArguments : Option (List String)

namespace Transcript

def output (transcript : Transcript) : String :=
  String.join (transcript.printed.map fun printed =>
    match printed with
    | .output text => text
    | _ => "")

def errors (transcript : Transcript) : String :=
  String.join (transcript.printed.map fun printed =>
    match printed with
    | .errors text => text
    | _ => "")

def exitCode (transcript : Transcript) : UInt32 :=
  (transcript.printed.findSome? fun printed =>
    match printed with
    | .exit code => some code
    | _ => none).getD 0

def linesTo (transcript : Transcript) (mark : String) : List String :=
  let lines := (transcript.output.splitOn "\n").dropLast
  let (before, later) := lines.span fun line => !mark.toList.isPrefixOf line.toList
  before ++ later.take 1

end Transcript

namespace Host

def connect (host : Host) (settings : Settings) : Except Link.Error Script :=
  if host.isEngine settings then .ok host.script else host.elsewhere settings

/-- How an engine with so many unread frames leaves after its output is closed. One that stays, or waits
for a frame that does not come, is killed. -/
def leaving : Nat → Script → Link.CloseReason
  | _, [] => .killed
  | unread, action :: rest =>
    match action, unread with
    | .exit code, _ => .exited (code % 256)
    | .close, _ => .exited 0
    | .die, _ => .killed
    | .read, 0 => .killed
    | .read, unread + 1 => leaving unread rest
    | _, _ => leaving unread rest

def stillRead : List Frame → Script → List Frame
  | _, [] => []
  | unread, action :: rest =>
    match action, unread with
    | .exit _, _ => []
    | .close, _ => []
    | .die, _ => []
    | .read, [] => []
    | .read, frame :: unread => frame :: stillRead unread rest
    | _, _ => stillRead unread rest

structure Progress where
  session : Session
  console : CommandLine.Console
  printed : List CommandLine.Printed
  unread : List Frame
  requests : List Frame

def Progress.print (progress : Progress)
    (printing : CommandLine.Console → CommandLine.Console × List CommandLine.Printed) : Progress :=
  let (console, printed) := printing progress.console
  { progress with console, printed := progress.printed ++ printed }

def Progress.step (progress : Progress) (step : Session.Step) : Progress :=
  let (report, session) := progress.session.step step
  let settled := report.settled.foldl
    (fun progress (_, result) =>
      match result with
      | .response outcome => progress.print (·.settle outcome)
      | .entries _ => progress)
    { progress with session }
  let delivered := report.delivered.foldl
    (fun progress message => progress.print (·.deliver message)) settled
  { delivered with
    unread := progress.unread ++ report.received.filterMap fun (_, item) => item.toOption }

def Progress.isOver (progress : Progress) : Bool :=
  progress.printed.any fun printed =>
    match printed with
    | .exit _ => true
    | _ => false

def follow (kind : Link.Kind) (progress : Progress) : Script → Progress
  | [] => progress
  | action :: rest =>
    if progress.isOver then progress
    else match action with
      | .read =>
        match progress.unread with
        | [] => progress
        | frame :: unread =>
          follow kind { progress with unread, requests := progress.requests ++ [frame] } rest
      | .write bytes => follow kind (progress.step (.reply bytes none)) rest
      | .complain _ => follow kind progress rest
      | _ =>
        match kind with
        | .socket => follow kind (progress.step (.close none .disconnected)) rest
        | .process =>
          let actions := action :: rest
          { progress.step (.close none (leaving progress.unread.length actions)) with
            requests := progress.requests ++ stillRead progress.unread actions }

def run (host : Host) : Transcript :=
  match CommandLine.prepare host.lookUp host.installed? host.arguments with
  | .error failure => ⟨[.errors failure.report, .exit 1], [], none⟩
  | .ok (settings, invocation) =>
    let (outcome, script) :=
      match host.connect settings with
      | .ok script => (Outcome.ok, script)
      | .error error => (.refused error, [])
    let subscriber := if invocation.isWatch then Subscriber.queue [] else .discard
    let session := Session.new settings.kind settings.policy [outcome] subscriber
    let start : Progress := ⟨session, .start invocation, [], [], []⟩
    let progress := follow settings.kind (start.step (.send [invocation.request])) script
    let spawned := settings.kind == .process && host.isEngine settings
    ⟨progress.printed, progress.requests, if spawned then some settings.arguments else none⟩

end Host

end EngineClient.Simulation
