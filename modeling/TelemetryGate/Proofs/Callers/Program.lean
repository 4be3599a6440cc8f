import TelemetryGate.Manager

/-!
# What a caller does, step by step

The manager's calls at the grain of its locks: one lock for transitions, and one around the handle
of the client, which many may hold to read and one to write.  A caller makes one call; whoever
makes several is as many callers, each beginning after the one before has returned.

* `Call`, `Call.run`   what is asked, and what the manager answers when it is asked alone;
* `Errand`             what a call comes to: switching on, switching off, or a question;
* `Stage`              where a caller stands;
* `Act`                what it does next;
* `Stage.Next`         the steps of a caller, whatever the others do.
-/

namespace TelemetryGate.Callers

/-! ### calls -/

inductive Request where
  | enable (config : ClientConfig)
  | disable
  | setEnabled (on : Bool) (config : ClientConfig)
  | track (event : String) (props : Properties)
  | trackServerEvent (event : ServerEvent) (props : Properties)
  | isEnabled
  | status

inductive Answer where
  | switched (result : Except LifecycleError Unit)
  | tracked
  | enabled (on : Bool)
  | shown (status : Status)

/-- A call: what is asked, and how things turn out while it runs. -/
structure Call where
  request : Request
  outcomes : Outcomes

/-- The call made alone, one operation of the manager. -/
def Call.run (c : Call) (m : Manager) : Done Manager Answer :=
  match c.request with
  | .enable config => (m.enable config c.outcomes).map .switched
  | .disable => (m.disable c.outcomes).map .switched
  | .setEnabled on config => (m.setEnabled on config c.outcomes).map .switched
  | .track event props => (m.track event props c.outcomes).map fun () => .tracked
  | .trackServerEvent event props =>
    (m.trackServerEvent event props c.outcomes).map fun () => .tracked
  | .isEnabled => { answer := .enabled m.isEnabled, state := m }
  | .status => { answer := .shown m.status, state := m }

/-- What only looks at the handle. -/
inductive Question where
  | track (event : String) (props : Properties)
  | isEnabled
  | status

/-- What a call comes to. -/
inductive Errand where
  | on (config : ClientConfig)
  | off
  | ask (q : Question)

/-- whether it takes the lock for transitions -/
def Errand.switches : Errand → Bool
  | on _ => true
  | off => true
  | ask _ => false

/-- What is asked comes to one of three errands. -/
def Request.errand : Request → Errand
  | enable config => .on config
  | disable => .off
  | setEnabled on config => if on then .on config else .off
  | track event props => .ask (.track event props)
  | trackServerEvent event props => .ask (.track event.name props)
  | isEnabled => .ask .isEnabled
  | status => .ask .status

/-- A question, asked alone. -/
def Question.run (q : Question) (o : Outcomes) (m : Manager) : Done Manager Answer :=
  match q with
  | .track event props => (m.track event props o).map fun () => .tracked
  | .isEnabled => { answer := .enabled m.isEnabled, state := m }
  | .status => { answer := .shown m.status, state := m }

theorem Call.run_on {c : Call} {config : ClientConfig} (h : c.request.errand = .on config)
    (m : Manager) : c.run m = (m.enable config c.outcomes).map .switched := by
  obtain ⟨request, o⟩ := c
  cases request with
  | enable config' => cases h; rfl
  | setEnabled on config' =>
    cases on with
    | true => cases h; rfl
    | false => cases h
  | _ => cases h

theorem Call.run_off {c : Call} (h : c.request.errand = .off) (m : Manager) :
    c.run m = (m.disable c.outcomes).map .switched := by
  obtain ⟨request, o⟩ := c
  cases request with
  | disable => rfl
  | setEnabled on config =>
    cases on with
    | true => cases h
    | false => rfl
  | _ => cases h

theorem Call.run_ask {c : Call} {q : Question} (h : c.request.errand = .ask q) (m : Manager) :
    c.run m = q.run c.outcomes m := by
  obtain ⟨request, o⟩ := c
  cases request with
  | setEnabled on config => cases on <;> cases h
  | enable config => cases h
  | disable => cases h
  | _ => cases h; rfl

/-! ### stages -/

/-- Where a caller stands. -/
inductive Stage where
  /-- it has not begun -/
  | unborn
  /-- switching on: it wants the lock for transitions -/
  | onStart (config : ClientConfig)
  /-- it has that lock, until it is `unlocking`, and wants to read -/
  | onEnter (config : ClientConfig)
  | onLook (config : ClientConfig)
  | onLooked (config : ClientConfig) (found : Option LiveClient)
  /-- it reads no more, and there was no client -/
  | onAbsent (config : ClientConfig)
  | onCreate (config : ClientConfig)
  /-- it has a client, and wants to write -/
  | onCreated (client : LiveClient)
  | onSwap (client : LiveClient)
  | onSwapped (client : LiveClient)
  /-- switching off: it wants the lock for transitions -/
  | offStart
  /-- it has that lock, until it is `unlocking`, and wants to write -/
  | offEnter
  | offSwap
  | offSwapped (found : Option LiveClient)
  /-- it writes no more, and took a client -/
  | offHeld (client : LiveClient)
  | offClose (client : LiveClient)
  /-- it is about to give the lock for transitions back -/
  | unlocking (answer : Answer)
  /-- a question: it wants to read -/
  | readStart (q : Question)
  | readLook (q : Question)
  | trackHeld (client : LiveClient) (event : String) (props : Properties)
  | trackRun (client : LiveClient) (event : String) (props : Properties)
  /-- it is about to read no more -/
  | readDone (answer : Answer)
  /-- it holds nothing, and is about to return -/
  | leaving (answer : Answer)
  | returned (answer : Answer)

/-- The first stage of an errand. -/
def Errand.start : Errand → Stage
  | on config => .onStart config
  | off => .offStart
  | ask q => .readStart q

/-- Where a question stands once it has seen what is behind the lock. -/
def Question.seen (found : Option LiveClient) : Question → Stage
  | track event props =>
    match found with
    | some client => .trackHeld client event props
    | none => .readDone .tracked
  | isEnabled => .readDone (.enabled (Manager.isEnabled { live := found }))
  | status => .readDone (.shown (Manager.status { live := found }))

/-! ### acts -/

/-- What a caller does in one step. -/
inductive Act where
  | begin
  | lock
  | unlock
  | startRead
  | endRead
  | startWrite
  | endWrite
  /-- it sees what is behind the lock -/
  | look (found : Option LiveClient)
  /-- it puts a client behind the lock -/
  | put (client : LiveClient)
  /-- it takes away what is behind the lock -/
  | take (found : Option LiveClient)
  | startCreate (config : ClientConfig)
  | endCreate (made : Except LifecycleError LiveClient)
  | startTrack (client : Nat) (event : String) (props : Properties)
  | endTrack (client : Nat) (event : String) (props : Properties) (failure : Option ReportError)
  | startClose (client : Nat)
  | endClose (client : Nat) (failure : Option ReportError)
  | finish (answer : Answer)

/-- The clients' calls that end with an act, as the manager alone would report them. -/
def Act.made : Act → List ClientCall
  | endCreate (.ok c) => [.create c.number c.config]
  | endTrack n event props failure => [.track n event props failure]
  | endClose n failure => [.close n failure]
  | _ => []

/-- What closing a client answers. -/
def closeAnswer (failure : Option ReportError) : Answer :=
  .switched (match failure with | some e => .error (.close e) | none => .ok ())

/-- The steps of a caller. What it finds behind the lock, and the number of a client that is made,
are not its own choice. -/
inductive Stage.Next (c : Call) : Stage → Act → Stage → Prop
  | begin : Next c .unborn .begin c.request.errand.start
  -- switching on: look, create outside the lock of the handle, put the client there
  | onLock {config} : Next c (.onStart config) .lock (.onEnter config)
  | onRead {config} : Next c (.onEnter config) .startRead (.onLook config)
  | onLook {config found} : Next c (.onLook config) (.look found) (.onLooked config found)
  | onFound {config client} :
    Next c (.onLooked config (some client)) .endRead (.unlocking (.switched (.ok ())))
  | onAbsent {config} : Next c (.onLooked config none) .endRead (.onAbsent config)
  | onCreate {config} : Next c (.onAbsent config) (.startCreate config) (.onCreate config)
  | onRefused {config e} (h : c.outcomes.create config = some e) :
    Next c (.onCreate config) (.endCreate (.error e)) (.unlocking (.switched (.error e)))
  | onCreated {config n} (h : c.outcomes.create config = none) :
    Next c (.onCreate config) (.endCreate (.ok ⟨n, config⟩)) (.onCreated ⟨n, config⟩)
  | onWrite {client} : Next c (.onCreated client) .startWrite (.onSwap client)
  | onPut {client} : Next c (.onSwap client) (.put client) (.onSwapped client)
  | onDone {client} :
    Next c (.onSwapped client) .endWrite (.unlocking (.switched (.ok ())))
  -- switching off: take what is there, close it outside the lock of the handle
  | offLock : Next c .offStart .lock .offEnter
  | offWrite : Next c .offEnter .startWrite .offSwap
  | offTake {found} : Next c .offSwap (.take found) (.offSwapped found)
  | offNothing : Next c (.offSwapped none) .endWrite (.unlocking (.switched (.ok ())))
  | offHeld {client} : Next c (.offSwapped (some client)) .endWrite (.offHeld client)
  | offClose {client} : Next c (.offHeld client) (.startClose client.number) (.offClose client)
  | offClosed {client} :
    Next c (.offClose client) (.endClose client.number c.outcomes.close)
      (.unlocking (closeAnswer c.outcomes.close))
  | unlock {answer} : Next c (.unlocking answer) .unlock (.leaving answer)
  -- a question: the client tracks while the handle is read
  | read {q} : Next c (.readStart q) .startRead (.readLook q)
  | look {q found} : Next c (.readLook q) (.look found) (q.seen found)
  | track {client event props} :
    Next c (.trackHeld client event props) (.startTrack client.number event props)
      (.trackRun client event props)
  | tracked {client event props} :
    Next c (.trackRun client event props)
      (.endTrack client.number event props c.outcomes.track) (.readDone .tracked)
  | readDone {answer} : Next c (.readDone answer) .endRead (.leaving answer)
  | finish {answer} : Next c (.leaving answer) (.finish answer) (.returned answer)

/-! ### what a caller has done -/

/-- The acts that bring a caller to a stage. -/
inductive Stage.Path (c : Call) : List Act → Stage → Prop
  | start : Path c [] .unborn
  | step {acts a act b} (path : Path c acts a) (next : Stage.Next c a act b) :
    Path c (acts ++ [act]) b

end TelemetryGate.Callers
