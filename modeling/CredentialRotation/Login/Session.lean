import CredentialRotation.Login.Attempt

/-!
# Login sessions

A login runs two tasks side by side. The visitor waits for the address of
the request for an outcome and requests it. The receiver hands the
address over, waits for the outcome at the listener and buys tokens for
the code. The first task that fails cancels the other one; a deadline and
the caller end both.

The order of all this is not ours to choose. An `Event` is one thing that
may happen, and a session is what any list of events makes of it. A task
that gets a turn does one thing, the most urgent first: it stops where it
is cancelled, then where the deadline has passed, and only then goes on.
At the end of the events the deadline passes, so every session has a
result.

What is not modelled is a wait that nothing ends. Where the answer to the
visitor is no welcome, its words are read to their end before the visitor
fails, and neither the deadline nor a cancellation cuts that short. Here an
answer comes with its words (`Event.visitAnswered`), so a provider that
welcomes nobody and never stops talking is out of the picture: a session
in which such an answer has come is one in which its words have, too.
-/

namespace CredentialRotation

/-- How far the visitor is. -/
inductive Visitor
  | waiting
  | holding
  | requesting
  | finished (result : Except LoginError Unit)

/-- How far the receiver is. -/
inductive Receiver
  | starting
  | waiting
  | holding (code : String)
  | redeeming
  | finished (result : Except LoginError TokenSet)

/-- What the visitor is doing, for a message. -/
def Visitor.activity : Visitor → String
  | .waiting => "waiting for the authorization URL"
  | _ => "requesting the authorization endpoint"

/-- What the receiver is doing, for a message. -/
def Receiver.activity : Receiver → String
  | .starting => "waiting for the authorization callback"
  | .waiting => "waiting for the authorization callback"
  | _ => "exchanging the authorization code"

/-- One thing that may happen while a login runs: a task gets a turn, a
server answers or fails to, a request reaches the listener, the listener
stops, the caller cancels, the deadline passes. An answer is the whole
answer, its status with its words. -/
inductive Event
  | visitorTurn
  | receiverTurn
  | visitAnswered (answer : Option Response)
  | codeAnswered (answer : Option Response)
  | arrives (request : Arrival)
  | listenerStops
  | cancel
  | deadline
deriving DecidableEq

/-- A login while it runs: its two tasks, what has come for them, and the
requests that were sent, in order. -/
structure Session where
  visitor : Visitor := .waiting
  receiver : Receiver := .starting
  published : Bool := false
  listener : Listener := {}
  visitAnswer : Option (Option Response) := none
  codeAnswer : Option (Option Response) := none
  cancelled : Bool := false
  expired : Bool := false
  sent : List Request := []

namespace Session

/-- Why a task stops before it looks at what came for it. -/
def interruption? (s : Session) (activity : String) : Option LoginError :=
  if s.cancelled then some .cancelled
  else if s.expired then some (.timeout activity)
  else none

/-- Whether a result is a failure. -/
def isFailure {α : Type} : Except LoginError α → Bool
  | .error _ => true
  | .ok _ => false

/-- The visitor is done; its failure cancels the receiver. -/
def endVisit (s : Session) (result : Except LoginError Unit) : Session :=
  { s with visitor := .finished result, cancelled := s.cancelled || isFailure result }

/-- The receiver is done; its failure cancels the visitor. -/
def endReceipt (s : Session) (result : Except LoginError TokenSet) : Session :=
  { s with receiver := .finished result, cancelled := s.cancelled || isFailure result }

variable (c : LoginClient) (a : Attempt) (address : Url)

/-- A turn of the visitor. -/
def visitorTurn (s : Session) : Session :=
  match s.visitor, s.interruption? s.visitor.activity with
  | .finished _, _ => s
  | _, some e => s.endVisit (.error e)
  | .waiting, none => if s.published then { s with visitor := .holding } else s
  | .holding, none =>
    match LoginClient.visit address with
    | .done answer => s.endVisit (LoginClient.readVisit answer)
    | .ask request _ => { s with visitor := .requesting, sent := s.sent ++ [request] }
  | .requesting, none =>
    match s.visitAnswer with
    | some answer => s.endVisit (LoginClient.readVisit answer)
    | none => s

/-- A turn of the receiver. -/
def receiverTurn (s : Session) : Session :=
  match s.receiver, s.interruption? s.receiver.activity with
  | .finished _, _ => s
  | .starting, _ => { s with receiver := .waiting, published := true }
  | _, some e => { s with listener.serving := false }.endReceipt (.error e)
  | .waiting, none =>
    match s.listener.waiting with
    | some outcome =>
      let s := { s with listener := { serving := false, waiting := none } }
      match LoginClient.codeOf a outcome with
      | .ok code => { s with receiver := .holding code }
      | .error e => s.endReceipt (.error e)
    | none => if s.listener.serving then s else s.endReceipt (.error (.listener .other))
  | .holding code, none =>
    match c.postForm (c.codeForm a code) with
    | .done answer => s.endReceipt (LoginClient.redeem a answer)
    | .ask request _ => { s with receiver := .redeeming, sent := s.sent ++ [request] }
  | .redeeming, none =>
    match s.codeAnswer with
    | some answer => s.endReceipt (LoginClient.redeem a answer)
    | none => s

/-- A session after one more event. Only a request that was sent is
answered, and only once; only a listener that serves is reached. -/
def step (s : Session) : Event → Session
  | .visitorTurn => s.visitorTurn address
  | .receiverTurn => s.receiverTurn c a
  | .visitAnswered answer =>
    match s.visitor with
    | .requesting => { s with visitAnswer := s.visitAnswer.or (some answer) }
    | _ => s
  | .codeAnswered answer =>
    match s.receiver with
    | .redeeming => { s with codeAnswer := s.codeAnswer.or (some answer) }
    | _ => s
  | .arrives request =>
    if s.listener.serving then { s with listener := (s.listener.receive request).2 } else s
  | .listenerStops => { s with listener.serving := false }
  | .cancel => { s with cancelled := true }
  | .deadline => { s with expired := true }

/-- The fault that is reported when both tasks fail: the one that the
cancellation of the other is owed to. -/
def firstCause (visit receipt : LoginError) : LoginError :=
  if visit = .cancelled then receipt else visit

/-- The result of both tasks. -/
def join (visit : Except LoginError Unit) (receipt : Except LoginError TokenSet) :
    Except LoginError TokenSet :=
  match visit, receipt with
  | .ok (), .ok tokens => .ok tokens
  | .error v, .error r => .error (firstCause v r)
  | .error v, .ok _ => .error v
  | .ok (), .error r => .error r

/-- The result of the visitor, at the deadline if it is not done. -/
def visitResult (s : Session) : Except LoginError Unit :=
  match s.visitor with
  | .finished result => result
  | v => .error (if s.cancelled then .cancelled else .timeout v.activity)

/-- The result of the receiver, at the deadline if it is not done. -/
def receiptResult (s : Session) : Except LoginError TokenSet :=
  match s.receiver with
  | .finished result => result
  | r => .error (if s.cancelled then .cancelled else .timeout r.activity)

/-- The result of a session. At the deadline the visitor is the first to
stop. -/
def result (s : Session) : Except LoginError TokenSet :=
  let visit := s.visitResult
  let receipt := { s with cancelled := s.cancelled || isFailure visit }.receiptResult
  join visit receipt

end Session

/-- What a login meets: the port it is given to listen at, what is drawn
for it, whether the caller has cancelled it before, and the events in
order. -/
structure Circumstances where
  port : Except IoKind Nat
  state : String
  nonce : String
  verifier : String
  cancelled : Bool := false
  events : List Event := []

namespace LoginClient

variable (c : LoginClient) (w : Circumstances)

/-- The attempt that a login makes, with the address it starts at. There
is no failure for a deadline that no clock can show: a client is made only
from settings that pass `LoginConfig.validate`, and those wait no longer
than `LoginConfig.maxLoginTimeout`, a week. -/
def start : Except LoginError (Attempt × Url) :=
  match w.port with
  | .error kind => .error (.listener kind)
  | .ok port => do
    let a := c.attempt w.state w.nonce w.verifier port
    .ok (a, ← c.authorizeUrl a)

/-- The session that events make of an attempt. -/
def session (a : Attempt) (address : Url) : Session :=
  w.events.foldl (Session.step c a address) { cancelled := w.cancelled }

/-- A login: the result, any fault wrapped once, and the requests that
were sent. -/
def login : Except LoginError TokenSet × List Request :=
  match c.start w with
  | .error e => (.error e.wrapped, [])
  | .ok (a, address) =>
    let s := c.session w a address
    (s.result.mapError LoginError.wrapped, s.sent)

end LoginClient

end CredentialRotation
