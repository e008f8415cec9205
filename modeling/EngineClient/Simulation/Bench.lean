import EngineClient.Connection
import EngineClient.Simulation.Outcome

/-!
A connection on its own, over scripted links: its operations are called from outside, and the signals
of its links are only listed.
-/

namespace EngineClient.Simulation

structure Bench where
  connection : Connection
  kind : Link.Kind
  script : List Outcome
  /-- Outcomes of the attempts so far, oldest first. -/
  attempts : List Outcome
  link : Option Link

namespace Bench

inductive Step where
  | start
  | lose (generation : Link.Generation)
  | heal (generation : Link.Generation)
  | shutdown
  | isCurrent (generation : Link.Generation)
  /-- The engine of an attempt, counted from zero, goes away. -/
  | hangUp (attempt : Nat)

inductive Answer where
  | started (link : Link)
  | failed (error : Link.Error)
  | decided (decision : Restart.Decision)
  | current (isCurrent : Bool)
  | nothing

def new (kind : Link.Kind) (policy : Restart.Policy) (script : List Outcome) : Bench :=
  ⟨.new policy, kind, script, [], none⟩

def start (bench : Bench) : Answer × Bench :=
  match bench.connection.live, bench.link with
  | some _, some link => (.started link, bench)
  | _, _ =>
    let outcome := Outcome.next bench.script
    let (_, connection) := bench.connection.ensureLive (outcome.attempt.map fun _ => ())
    let bench := { bench with
      connection
      script := bench.script.tail
      attempts := bench.attempts ++ [outcome] }
    match outcome.attempt with
    | .ok peer =>
      let link := Link.start peer bench.kind connection.generation
      (.started link, { bench with link := some link })
    | .error error => (.failed error, bench)

def hangUp (bench : Bench) (attempt : Nat) : Bench :=
  if bench.attempts[attempt]? = some .ok then
    { bench with link := bench.link.map fun link =>
        if link.generation = attempt + 1 then link.receive (.ended .disconnected) else link }
  else bench

def perform (bench : Bench) : Step → Answer × Bench
  | .start => bench.start
  | .lose generation =>
    match bench.connection.lose generation with
    | some (decision, connection) => (.decided decision, { bench with connection, link := none })
    | none => (.nothing, bench)
  | .heal generation =>
    (.nothing, { bench with connection := bench.connection.markHealthy generation })
  | .shutdown =>
    (.nothing, { bench with connection := bench.connection.shutdown, link := none })
  | .isCurrent generation => (.current (bench.connection.isCurrent generation), bench)
  | .hangUp attempt => (.nothing, bench.hangUp attempt)

def settle (bench : Bench) : List (Link.Generation × Link.Signal) × Bench :=
  match bench.link with
  | none => ([], bench)
  | some link =>
    let (signals, after) := link.run
    (signals.map (link.generation, ·), { bench with link := some after })

end Bench

end EngineClient.Simulation
