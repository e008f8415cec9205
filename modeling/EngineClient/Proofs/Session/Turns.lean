import EngineClient.Proofs.Client.Settlement
import EngineClient.Proofs.Frame.Stream
import EngineClient.Proofs.Message.RoundTrip

/-!
A client in a session with an engine that lists directories. The engine reads the bytes that reach it as
frames, answers the requests in any order, and may write other frames in between; what it writes reaches
the client in chunks of any size. Nothing is lost on the way.
-/

namespace EngineClient

def Request.path (request : Request) : String :=
  (Json.Members.find? "path" request.payload >>= Json.string?).getD ""

/-- What the engine writes: the answer to a request, or any other frame. -/
inductive Session.Writing where
  | answer (request : Request)
  | aside (frame : Frame)

structure Session where
  client : Client
  /-- What the engine has read of a frame that is not complete. -/
  inbox : Frame.Decoder
  /-- The requests that the engine has read and not answered. -/
  unanswered : List Request
  /-- What the engine has written and the client has not read, in order. -/
  written : List Session.Writing
  /-- The bytes that the engine has written and the link has not delivered. -/
  outbox : Bytes

namespace Session

inductive Turn where
  | list (path : String)
  /-- The dispatcher handles the next call. The link can be opened. -/
  | handle
  /-- The engine reads what the writer of the link pours. -/
  | pour (amount : Nat)
  /-- The engine answers one of the requests that are open. -/
  | answer (index : Nat)
  /-- The engine writes something that it was not asked for, once it is connected. -/
  | aside (frame : Frame)
  /-- The next bytes that the engine has written arrive as one chunk. -/
  | deliver (count : Nat)
  | read

def listed (turns : List Turn) : List String :=
  turns.filterMap fun
    | .list path => some path
    | _ => none

def start (client : Client) : Session := ⟨client, .empty, [], [], []⟩

variable (listing : String → List Entry)

def Writing.frame : Writing → Frame
  | .answer request => (Response.ofEntries (request.id.getD "") (listing request.path)).frame
  | .aside frame => frame

def perform (session : Session) (move : Client.Move) : Session × List Client.Output :=
  ({ session with client := (session.client.perform move).1 }, (session.client.perform move).2)

def write (session : Session) (writing : Writing) : Session :=
  { session with
    written := session.written ++ [writing]
    outbox := session.outbox ++ (writing.frame listing).encode }

def receive (session : Session) (bytes : Bytes) : Session :=
  { session with
    inbox := (session.inbox.step bytes).2
    unanswered := session.unanswered ++
      (Frame.Decoder.framesOf (session.inbox.step bytes).1).filterMap (·.outbound.toOption) }

def poured (outputs : List Client.Output) : Bytes :=
  outputs.flatMap fun
    | .poured _ bytes => bytes
    | .effect _ => []

/-- What the client reads next: the frames that the next chunk completes. -/
def reading (session : Session) : List Writing :=
  match session.client.signals with
  | (_, .data chunk) :: _ =>
    session.written.take
      (Frame.Decoder.framesOf (session.client.dispatcher.decoder.step chunk).1).length
  | _ => []

def turn (session : Session) : Turn → Session × List Client.Output
  | .list path => session.perform (.send (.directoryOpen path))
  | .handle => session.perform (.command (.ok .silent))
  | .pour amount =>
    let (next, outputs) := session.perform (.pour amount)
    (next.receive (poured outputs), outputs)
  | .answer index =>
    match session.unanswered[index]? with
    | none => (session, [])
    | some request =>
      ({ session with unanswered := session.unanswered.eraseIdx index }.write listing
        (.answer request), [])
  | .aside frame =>
    match session.client.link with
    | none => (session, [])
    | some _ => (session.write listing (.aside frame), [])
  | .deliver count =>
    match session.client.link with
    | none => (session, [])
    | some link =>
      { session with outbox := session.outbox.drop count }.perform
        (.report link.generation (.data (session.outbox.take count)))
  | .read =>
    { session with written := session.written.drop session.reading.length }.perform .signal

def run (session : Session) : List Turn → Session × List Client.Output
  | [] => (session, [])
  | turn :: turns =>
    let (next, outputs) := session.turn listing turn
    let (last, later) := next.run turns
    (last, outputs ++ later)

def answered? (frame : Frame) : Option String :=
  match frame.inbound with
  | .ok (.response reply) => reply.id
  | _ => none

/-- No frame but an answer is a response that a call waits for when the client reads it. -/
def Unclaimed : Call.Pending → List Writing → Prop
  | _, [] => True
  | pending, .answer request :: later => Unclaimed (pending.erase (request.id.getD "")) later
  | pending, .aside frame :: later =>
    (∀ id ∈ answered? frame, pending.contains id = false) ∧ Unclaimed pending later

/-- What is asked of a turn: bodies are not too long, and only the answer to a call is a response that
carries its id while it is pending. A call is settled before its id, which a 64-bit counter makes,
comes round. -/
def Permitted (session : Session) : Turn → Prop
  | .list path =>
    (session.client.identify (.directoryOpen path)).1.frame.Fits ∧
      ∀ number ∈ session.client.queuedCalls ++ session.client.pendingCalls,
        session.client.issued < number + 0x10000000000000000
  | .answer index =>
    ∀ request ∈ session.unanswered[index]?, ((Writing.answer request).frame listing).Fits
  | .aside frame => frame.Fits
  | .read => Unclaimed session.client.dispatcher.pending session.reading
  | _ => True

def Permits : Session → List Turn → Prop
  | _, [] => True
  | session, turn :: turns =>
    session.Permitted listing turn ∧ Permits (session.turn listing turn).1 turns

instance decidableUnclaimed : ∀ pending writings, Decidable (Unclaimed pending writings)
  | _, [] => .isTrue trivial
  | pending, .answer request :: later =>
    decidableUnclaimed (pending.erase (request.id.getD "")) later
  | pending, .aside _ :: later =>
    have := decidableUnclaimed pending later
    inferInstanceAs (Decidable (_ ∧ _))

instance decidablePermitted (session : Session) :
    ∀ turn, Decidable (session.Permitted listing turn)
  | .list _ => inferInstanceAs (Decidable (_ ∧ _))
  | .handle => .isTrue trivial
  | .pour _ => .isTrue trivial
  | .answer index =>
    inferInstanceAs (Decidable (∀ request ∈ session.unanswered[index]?,
      ((Writing.answer request).frame listing).Fits))
  | .aside frame => inferInstanceAs (Decidable frame.Fits)
  | .deliver _ => .isTrue trivial
  | .read => decidableUnclaimed _ _

instance decidablePermits : ∀ session turns, Decidable (Permits listing session turns)
  | _, [] => .isTrue trivial
  | session, turn :: turns =>
    have := decidablePermits (session.turn listing turn).1 turns
    inferInstanceAs (Decidable (_ ∧ _))

/-- Everything that was asked is answered, and all that was said has arrived and was handled. -/
structure AtRest (session : Session) : Prop where
  handled : session.client.commands = []
  poured : ∀ link, session.client.link = some link → link.writer.hand = [] ∧ link.writer.queue = []
  answered : session.unanswered = []
  delivered : session.outbox = []
  read : session.client.signals = []

instance (session : Session) : Decidable session.AtRest :=
  decidable_of_iff (session.client.commands.isEmpty ∧
      (∀ link ∈ session.client.link, link.writer.hand = [] ∧ link.writer.queue = []) ∧
      session.unanswered.isEmpty ∧ session.outbox = [] ∧ session.client.signals = []) (by
    simp only [List.isEmpty_iff]
    constructor
    · rintro ⟨handled, poured, answered, delivered, read⟩
      exact ⟨handled, poured, answered, delivered, read⟩
    · rintro ⟨handled, poured, answered, delivered, read⟩
      exact ⟨handled, poured, answered, delivered, read⟩)

end Session

end EngineClient
