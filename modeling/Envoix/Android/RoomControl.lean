import Envoix.Room.Session

/-! # Room sessions of the app

`envoix-android-jni/src/room_control.rs`: the task of `startRoomControlSession`, which connects and
then takes events off the session, the task of `run_command_fifo`, which it spawns, and the calls of
the app. The two tasks and the thread of a cancellation share `accepting_commands` and `closing`. -/

namespace Envoix.Android.RoomControl

open Envoix.Room
  (RoomCloseReason RoomControlEvent RoomLifetimePolicy RoomLifetimeState RoomOfferRejection
  RoomTransferOffer)

/-! ## Errors and commands -/

/-- A cause is its code. -/
inductive CoreError where
  | invalidInput (message : String)
  | io (message : String)
  | protocol (message : String)
  | transport (message : String)
  | crypto (message : String)
  | storage (message : String)
  | discovery (message : String)
  | transfer (message : String)
  | cause (code detail : String)
  | rendezvous (code : String) (retryAfter : Option UInt64)
  | invitationConsumed (source : CoreError)
  | cancelled
deriving DecidableEq

def retrySuffix : Option UInt64 → String
  | none => ""
  | some seconds => " (retry after " ++ toString seconds ++ "s)"

def CoreError.toText : CoreError → String
  | .invalidInput message => "invalid input: " ++ message
  | .io message => "I/O error: " ++ message
  | .protocol message => "protocol error: " ++ message
  | .transport message => "transport error: " ++ message
  | .crypto message => "crypto error: " ++ message
  | .storage message => "storage error: " ++ message
  | .discovery message => "discovery error: " ++ message
  | .transfer message => "transfer error: " ++ message
  | .cause code detail => code ++ ": " ++ detail
  | .rendezvous code retryAfter => "rendezvous " ++ code ++ retrySuffix retryAfter
  | .invitationConsumed source =>
    "one-time invitation was consumed after authentication: " ++ source.toText
  | .cancelled => "operation cancelled"

structure ConnectFailure where
  error : CoreError
  peerAuthenticated : Bool
  attemptedRememberedGeneration : Option UInt64
deriving DecidableEq

inductive RoomCommand where
  | offer (offer : RoomTransferOffer)
  | respond (offerId : String) (accept : Bool)
  | policy (policy : String)
  | transferActive (active : Bool)
  | close (reason : String)
  | ping (nonce : UInt64)
deriving DecidableEq

def parsePolicy : String → Except CoreError RoomLifetimePolicy
  | "idle_15_minutes" => .ok .idle15Minutes
  | "until_foreground_ends" => .ok .untilForegroundEnds
  | _ => .error (.invalidInput "unknown room lifetime policy")

def parseCloseReason : String → Except CoreError RoomCloseReason
  | "user_ended" => .ok .userEnded
  | "idle_expired" => .ok .idleExpired
  | "invitation_expired" => .ok .invitationExpired
  | "peer_ended" => .ok .peerEnded
  | "backgrounded" => .ok .backgrounded
  | "network_lost" => .ok .networkLost
  | "protocol_failure" => .ok .protocolFailure
  | _ => .error (.invalidInput "unknown room close reason")

def RoomCommand.requestedClose : RoomCommand → Option RoomCloseReason
  | .close reason => (parseCloseReason reason).toOption
  | _ => none

/-- `reply` is the answer of the session to the call that the command makes. -/
def executeCommand (reply : Except CoreError (Option RoomLifetimeState)) :
    RoomCommand → Except CoreError (Option RoomLifetimeState)
  | .offer _ => reply
  | .respond _ _ => reply
  | .policy policy => do
    let _ ← parsePolicy policy
    reply
  | .transferActive _ => reply
  | .close reason => do
    let _ ← parseCloseReason reason
    let _ ← reply
    return none
  | .ping _ => do
    let _ ← reply
    return none

/-! ## Events -/

/-- What the event of a connection is written from. -/
structure Connection where
  peerName : String
  creator : Bool
  rememberedGeneration : Option UInt64
  pairingCredential : Option String
  lifetime : RoomLifetimeState
deriving DecidableEq

/-- Events by which a session goes on. -/
inductive Notice where
  | connected (connection : Connection)
  | incomingOffer (offer : RoomTransferOffer)
  | offerAccepted (offerId : String)
  | offerRejected (offerId : String) (reason : RoomOfferRejection)
  | lifetimeChanged (lifetime : RoomLifetimeState)
  | pong (nonce : UInt64)
  | commandFailed (command : String) (offerId : Option String) (message : String)
  | offerResponseSent (offerId : String) (accepted : Bool)
deriving DecidableEq

/-- Events in the states `closed` and `failed`. -/
inductive Ending where
  | closed (reason : RoomCloseReason)
  | failed (message : String)
  | connectFailed (message : String) (peerAuthenticated : Bool)
      (attemptedRememberedGeneration : Option UInt64) (failureCode : Option String)
      (retryAfterSeconds : Option UInt64)
deriving DecidableEq

inductive Event where
  | notice (notice : Notice)
  | ending (ending : Ending)
deriving DecidableEq

def failedEvent (error : CoreError) : Ending := .failed error.toText

def failureProjection : CoreError → Option String × Option UInt64
  | .rendezvous code retryAfter => (some code, retryAfter)
  | .invitationConsumed source => failureProjection source
  | _ => (none, none)

def connectFailedEvent (failure : ConnectFailure) : Ending :=
  let (failureCode, retryAfterSeconds) := failureProjection failure.error
  .connectFailed failure.error.toText failure.peerAuthenticated
    failure.attemptedRememberedGeneration failureCode
    retryAfterSeconds

def commandFailedEvent (command : RoomCommand) (error : CoreError) : Notice :=
  let (kind, offerId) : String × Option String :=
    match command with
    | .offer offer => ("offer", some offer.offerId)
    | .respond offerId _ => ("respond", some offerId)
    | .policy _ => ("policy", none)
    | .transferActive _ => ("transfer_active", none)
    | .close _ => ("close", none)
    | .ping _ => ("ping", none)
  .commandFailed kind offerId error.toText

/-- The event with which the session ends on an error. -/
def errorEvent : CoreError → Ending
  | .io _ => .closed .networkLost
  | .transport _ => .closed .networkLost
  | other => failedEvent other

/-! ## Tasks -/

/-- Where the task of `startRoomControlSession` stands. -/
inductive SessionTask where
  | connecting
  | connectFailed (failure : ConnectFailure)
  | reportingFailure (failure : ConnectFailure)
  | registering (connection : Connection)
  | registered (connection : Connection) (found : Bool)
  | closingEarly
  | announcing (connection : Connection)
  | waiting
  | emitting (notice : Notice)
  | peerClosed (reason : RoomCloseReason)
  | peerClosing (reason : RoomCloseReason)
  | failing (error : CoreError)
  | failed (error : CoreError)
  | reporting (ending : Ending)
  | aborting (reported : Bool)
  | removing
  | ended
deriving DecidableEq

/-- Where the task of `run_command_fifo` stands: `closed` once it has reported the end of the
session, `stopped` when it has ended otherwise. -/
inductive CommandTask where
  | unspawned
  | receiving
  | received (command : RoomCommand)
  | closing (command : RoomCommand)
  | executing (command : RoomCommand)
  | reporting (ending : Ending)
  | removing
  | closed
  | reopening (notice : Notice)
  | accepting (notice : Notice)
  | emitting (notices : List Notice)
  | stopped
deriving DecidableEq

/-- The arms of the loop over `next_event`. -/
def afterEvent : Except CoreError RoomControlEvent → SessionTask
  | .ok (.peerClosed reason) => .peerClosed reason
  | .ok (.incomingOffer offer) => .emitting (.incomingOffer offer)
  | .ok (.offerAccepted offerId) => .emitting (.offerAccepted offerId)
  | .ok (.offerRejected offerId reason) => .emitting (.offerRejected offerId reason)
  | .ok (.lifetimeChanged lifetime) => .emitting (.lifetimeChanged lifetime)
  | .ok (.pong nonce) => .emitting (.pong nonce)
  | .error error => .failing error

/-- `settle_close_result` and what the command task does of it. -/
def settleCloseResult (command : RoomCommand) (reason : RoomCloseReason) :
    Except CoreError (Option RoomLifetimeState) → CommandTask
  | .ok _ => .reporting (.closed reason)
  | .error (.invalidInput message) =>
    .reopening (commandFailedEvent command (.invalidInput message))
  | .error error => .reporting (failedEvent error)

/-- What is reported of a command that did not fail. -/
def succeeded (command : RoomCommand) (lifetime : Option RoomLifetimeState) : List Notice :=
  lifetime.toList.map .lifetimeChanged ++
    match command with
    | .respond offerId accept => [.offerResponseSent offerId accept]
    | _ => []

def afterCommand (command : RoomCommand) (result : Except CoreError (Option RoomLifetimeState)) :
    CommandTask :=
  match command.requestedClose with
  | some reason => settleCloseResult command reason result
  | none =>
    match result with
    | .error error => .emitting [commandFailedEvent command error]
    | .ok lifetime => .emitting (succeeded command lifetime)

/-! ## Interleavings -/

/-- Whose entry the registry has under the id: that of this session or of one started later. -/
inductive Holder where
  | own
  | later
deriving DecidableEq

/-- The stores of `cancelRoomControlSession`, which come after it has taken the entry. -/
inductive Cancellation where
  | idle
  | refusing
  | closing
deriving DecidableEq

structure World where
  rooms : Option Holder
  /-- The entry has the sender of `commands`. -/
  connected : Bool
  acceptingCommands : Bool
  closing : Bool
  commands : List RoomCommand
  session : SessionTask
  commandTask : CommandTask
  cancellation : Cancellation
  aborted : Bool
  cancelled : Bool
  emitted : List Event
deriving DecidableEq

def World.init : World where
  rooms := some .own
  connected := false
  acceptingCommands := true
  closing := false
  commands := []
  session := .connecting
  commandTask := .unspawned
  cancellation := .idle
  aborted := false
  cancelled := false
  emitted := []

/-- `session` and `commands` are the steps of the tasks between awaits; `restart` and `leave` are
those of sessions that are started later under the same id. -/
inductive Action where
  | connect (result : Except ConnectFailure Connection)
  | closeEarly
  | nextEvent (result : Except CoreError RoomControlEvent)
  | session
  | receive
  | execute (reply : Except CoreError (Option RoomLifetimeState))
  | commands
  | abandon
  | send (command : RoomCommand)
  | cancel
  | cancellation
  | restart
  | leave

namespace World

def emit (world : World) (event : Event) : World :=
  { world with emitted := world.emitted ++ [event] }

/-- `remove_room_if` -/
def removeRoomIf (world : World) : World :=
  { world with rooms := if world.rooms = some .own then none else world.rooms }

def connect (world : World) (result : Except ConnectFailure Connection) : Option World :=
  match world.session with
  | .connecting =>
    some { world with
      session :=
        match result with
        | .ok connection => .registering connection
        | .error failure => .connectFailed failure }
  | _ => none

def closeEarly (world : World) : Option World :=
  match world.session with
  | .closingEarly => some { world with session := .ended }
  | _ => none

def nextEvent (world : World) (result : Except CoreError RoomControlEvent) : Option World :=
  match world.session with
  | .waiting => some { world with session := afterEvent result }
  | _ => none

def sessionStep (world : World) : Option World :=
  match world.session with
  | .connectFailed failure =>
    if !world.closing || failure.peerAuthenticated then
      some { world with session := .reportingFailure failure }
    else some { world with session := .removing }
  | .reportingFailure failure =>
    some { world.emit (.ending (connectFailedEvent failure)) with session := .removing }
  | .registering connection =>
    if world.rooms = some .own then
      some { world with connected := true, session := .registered connection true }
    else some { world with session := .registered connection false }
  | .registered connection found =>
    if !found || world.closing then some { world with session := .closingEarly }
    else some { world with session := .announcing connection, commandTask := .receiving }
  | .announcing connection =>
    some { world.emit (.notice (.connected connection)) with session := .waiting }
  | .emitting notice => some { world.emit (.notice notice) with session := .waiting }
  | .peerClosed reason =>
    some { world with acceptingCommands := false, session := .peerClosing reason }
  | .peerClosing reason =>
    some { world with closing := true, session := .reporting (.closed reason) }
  | .failing error => some { world with acceptingCommands := false, session := .failed error }
  | .failed error =>
    -- whoever set `closing` is left to report the end
    if world.closing then some { world with session := .aborting false }
    else some { world with session := .reporting (errorEvent error) }
  | .reporting ending => some { world.emit (.ending ending) with session := .aborting true }
  | .aborting _ => some { world with aborted := true, session := .removing }
  | .removing => some { world.removeRoomIf with session := .ended }
  | .connecting => none
  | .closingEarly => none
  | .waiting => none
  | .ended => none

/-- The queue is closed when the entry, with its sender, is dropped. -/
def receive (world : World) : Option World :=
  match world.commandTask, world.aborted, world.commands with
  | .receiving, false, command :: rest =>
    some { world with commands := rest, commandTask := .received command }
  | .receiving, false, [] =>
    if world.rooms ≠ some .own ∧ world.cancellation = .idle then
      some { world with commandTask := .stopped }
    else none
  | _, _, _ => none

def execute (world : World) (reply : Except CoreError (Option RoomLifetimeState)) : Option World :=
  match world.commandTask, world.aborted with
  | .executing command, false =>
    some { world with commandTask := afterCommand command (executeCommand reply command) }
  | _, _ => none

/-- The abort of the command task takes effect where the task waits. -/
def abandon (world : World) : Option World :=
  match world.commandTask, world.aborted with
  | .receiving, true => some { world with commandTask := .stopped }
  | .executing _, true => some { world with commandTask := .stopped }
  | _, _ => none

def commandStep (world : World) : Option World :=
  match world.commandTask with
  | .received command =>
    if world.closing then some { world with commandTask := .stopped }
    else if command.requestedClose.isSome then some { world with commandTask := .closing command }
    else some { world with commandTask := .executing command }
  | .closing command => some { world with closing := true, commandTask := .executing command }
  | .reporting ending => some { world.emit (.ending ending) with commandTask := .removing }
  | .removing => some { world.removeRoomIf with commandTask := .closed }
  | .reopening notice => some { world with closing := false, commandTask := .accepting notice }
  | .accepting notice =>
    some { world with acceptingCommands := true, commandTask := .emitting [notice] }
  | .emitting (notice :: rest) =>
    some { world.emit (.notice notice) with commandTask := .emitting rest }
  | .emitting [] => some { world with commandTask := .receiving }
  | .unspawned => none
  | .receiving => none
  | .executing _ => none
  | .closed => none
  | .stopped => none

/-- `sendRoomControlCommand`: the entry is found and `enqueue_room_command` runs under the lock. -/
def send (world : World) (command : RoomCommand) : World :=
  if world.rooms = some .own ∧ world.acceptingCommands ∧ world.connected ∧
      world.commandTask ≠ .closed ∧ world.commandTask ≠ .stopped then
    { world with
      commands := world.commands ++ [command]
      acceptingCommands := command.requestedClose.isNone }
  else world

/-- `cancelRoomControlSession` takes the entry. -/
def cancel (world : World) : World :=
  match world.rooms with
  | some .own => { world with rooms := none, cancellation := .refusing, cancelled := true }
  | some .later => { world with rooms := none, cancelled := true }
  | none => { world with cancelled := true }

def cancellationStep (world : World) : Option World :=
  match world.cancellation with
  | .refusing => some { world with acceptingCommands := false, cancellation := .closing }
  | .closing => some { world with closing := true, cancellation := .idle }
  | .idle => none

def restart (world : World) : Option World :=
  if world.rooms = none then some { world with rooms := some .later } else none

def leave (world : World) : Option World :=
  if world.rooms = some .later then some { world with rooms := none } else none

def step (world : World) : Action → Option World
  | .connect result => world.connect result
  | .closeEarly => world.closeEarly
  | .nextEvent result => world.nextEvent result
  | .session => world.sessionStep
  | .receive => world.receive
  | .execute reply => world.execute reply
  | .commands => world.commandStep
  | .abandon => world.abandon
  | .send command => some (world.send command)
  | .cancel => some world.cancel
  | .cancellation => world.cancellationStep
  | .restart => world.restart
  | .leave => world.leave

end World

/-- The worlds that steps with a property lead to. -/
inductive Reached (allowed : World → Action → Prop) : World → Prop where
  | init : Reached allowed .init
  | step {world next : World} {action : Action} (before : Reached allowed world)
      (allows : allowed world action) (steps : world.step action = some next) : Reached allowed next

/-! ## The end of a session -/

namespace World

/-- No event of the session follows one by which it ends, so that there is at most one of these. -/
def EndsLast (world : World) : Prop :=
  ∀ before ending after, world.emitted = before ++ .ending ending :: after → after = []

/-- Both tasks have ended. -/
def Finished (world : World) : Prop :=
  world.session = .ended ∧
    (world.commandTask = .unspawned ∨ world.commandTask = .closed ∨ world.commandTask = .stopped)

/-- A session that ended without a cancellation was reported to end, and is not registered. -/
def Accounted (world : World) : Prop :=
  world.Finished → world.cancelled = false →
    (∃ before ending, world.emitted = before ++ [.ending ending]) ∧ world.rooms ≠ some .own

end World

namespace CommandTask

/-- The task has neither the outcome of a command to report nor reported the end. -/
def Mute : CommandTask → Prop
  | .receiving => True
  | .received _ => True
  | .closing _ => True
  | .executing _ => True
  | .emitting [] => True
  | .stopped => True
  | _ => False

/-- A close went through, or failed for good. -/
def Settled : CommandTask → Prop
  | .reporting _ => True
  | .removing => True
  | .closed => True
  | _ => False

/-- The task has reported the end. -/
def Reported : CommandTask → Prop
  | .removing => True
  | .closed => True
  | _ => False

theorem settled_of_reported {task : CommandTask} (reported : task.Reported) : task.Settled := by
  cases task with
  | removing => exact trivial
  | closed => exact trivial
  | _ => exact reported.elim

theorem unreported_of_mute {task : CommandTask} (mute : task.Mute) : ¬ task.Reported := by
  cases task with
  | removing => exact mute.elim
  | closed => exact mute.elim
  | _ => exact id

theorem afterCommand_unreported {command : RoomCommand}
    {result : Except CoreError (Option RoomLifetimeState)} :
    ¬ (afterCommand command result).Reported := by
  unfold afterCommand
  split
  · unfold settleCloseResult
    split <;> exact id
  · split <;> exact id

end CommandTask

/-- There is nothing to report of a command with this result. -/
structure RoomCommand.Silent (command : RoomCommand)
    (result : Except CoreError (Option RoomLifetimeState)) : Prop where
  kept : command.requestedClose = none
  unanswered : ∀ offerId accept, command ≠ .respond offerId accept
  unchanged : result = .ok none

theorem RoomCommand.Silent.mute {command : RoomCommand}
    {result : Except CoreError (Option RoomLifetimeState)} (silent : command.Silent result) :
    (afterCommand command result).Mute := by
  have nothing : succeeded command none = [] := by
    cases command with
    | respond offerId accept => exact absurd rfl (silent.unanswered offerId accept)
    | _ => rfl
  unfold afterCommand
  rw [silent.kept, silent.unchanged]
  show (CommandTask.emitting (succeeded command none)).Mute
  rw [nothing]
  trivial

/-- The session task emits nothing once the command task has reported the end; it reports the end
while the command task has nothing to report, and no command leaves anything to report until the
abort; where it leaves the report to whoever set `closing`, that was a cancellation or is a close
which is settled by the abort. -/
def Orderly (world : World) : Action → Prop
  | .session =>
    match world.session with
    | .announcing _ => ¬ world.commandTask.Reported
    | .emitting _ => ¬ world.commandTask.Reported
    | .reporting _ => world.commandTask.Mute
    | .aborting false => world.cancelled = true ∨ world.commandTask.Settled
    | _ => True
  | .execute reply =>
    world.session = .aborting true → ∀ command, world.commandTask = .executing command →
      command.Silent (executeCommand reply command)
  | _ => True

/-! ## What has been told -/

namespace World

/-- No end has been reported. -/
def Clean (world : World) : Prop := ∀ ending, Event.ending ending ∉ world.emitted

/-- An end is the last event. -/
def Complete (world : World) : Prop :=
  ∃ before ending, world.emitted = before ++ [.ending ending] ∧ ∀ other, Event.ending other ∉ before

/-- Only the command task may have reported the end. -/
structure Told (world : World) : Prop where
  clean : ¬ world.commandTask.Reported → world.Clean
  complete : world.commandTask.Reported → world.Complete

/-- The session has been cancelled and has no entry. -/
def Left (world : World) : Prop := world.rooms ≠ some .own ∧ world.cancelled = true

/-- There is no command task yet, and only a cancellation takes the entry or sets `closing`. -/
structure Fresh (world : World) : Prop where
  unspawned : world.commandTask = .unspawned
  clean : world.Clean
  closing : world.closing = true → world.Left
  cancelling : world.cancellation ≠ .idle → world.Left
  absent : world.rooms ≠ some .own → world.cancelled = true

/-- What holds after the session task has left its loop: the end is told and the command task cannot
add to it, or telling it is up to the command task. -/
def Leaving (world : World) : Prop :=
  world.Complete ∧
    (world.commandTask = .unspawned ∨ world.aborted = true ∧ world.commandTask.Mute) ∨
    world.Told ∧ (world.cancelled = true ∨ world.commandTask.Settled)

def Sound (world : World) : Prop :=
  match world.session with
  | .connecting => world.Fresh
  | .connectFailed _ => world.Fresh
  | .reportingFailure _ => world.Fresh
  | .registering _ => world.Fresh
  | .registered _ found => world.Fresh ∧ (found = false → world.Left)
  | .closingEarly => world.Fresh ∧ world.Left
  | .aborting true => world.Complete ∧ world.commandTask.Mute
  | .removing => world.Leaving
  | .ended => world.Leaving ∧ world.rooms ≠ some .own
  | _ => world.Told

section Telling

variable {world next : World} {notice : Notice} {ending : Ending}

theorem Clean.of_emitted (clean : world.Clean) (same : next.emitted = world.emitted) :
    next.Clean := by
  intro ending
  rw [same]
  exact clean ending

theorem Complete.of_emitted (complete : world.Complete) (same : next.emitted = world.emitted) :
    next.Complete := by
  obtain ⟨before, ending, emitted, clean⟩ := complete
  exact ⟨before, ending, same.trans emitted, clean⟩

theorem Clean.noticed (clean : world.Clean)
    (emitted : next.emitted = world.emitted ++ [.notice notice]) :
    next.Clean := by
  intro ending listed
  rw [emitted, List.mem_append, List.mem_singleton] at listed
  obtain listed | same := listed
  · exact clean ending listed
  · cases same

theorem Clean.ended (clean : world.Clean)
    (emitted : next.emitted = world.emitted ++ [.ending ending]) : next.Complete :=
  ⟨world.emitted, ending, emitted, clean⟩

theorem Clean.endsLast (clean : world.Clean) : world.EndsLast := by
  intro before ending after emitted
  exact absurd (emitted ▸ List.mem_append_right before List.mem_cons_self) (clean ending)

theorem Complete.endsLast (complete : world.Complete) : world.EndsLast := by
  intro before ending after emitted
  obtain ⟨notices, last, told, clean⟩ := complete
  rw [told] at emitted
  -- an event before the last one would be among the notices
  rcases List.eq_nil_or_concat after with rfl | ⟨middle, final, rfl⟩
  · rfl
  · have split : notices ++ [Event.ending last] = (before ++ .ending ending :: middle) ++
        [final] := by
      simpa [List.concat_eq_append] using emitted
    obtain ⟨same, -⟩ := List.append_inj' split rfl
    exact absurd (same ▸ List.mem_append_right before List.mem_cons_self) (clean ending)

/-- What was told by a task that did not report the end. -/
theorem Told.of_clean (clean : world.Clean) (unreported : ¬ world.commandTask.Reported) :
    world.Told :=
  ⟨fun _ => clean, fun reported => absurd reported unreported⟩

end Telling

/-! ## Steps -/

/-- What a step carries over where the session task stays where it is. -/
structure Carries (world next : World) : Prop where
  session : next.session = world.session
  absent : world.rooms ≠ some .own → next.rooms ≠ some .own
  cancelled : world.cancelled = true → next.cancelled = true
  fresh : world.Fresh → next.Fresh
  told : world.Told → next.Told
  mute : world.session = .aborting true → world.Complete → world.commandTask.Mute →
    next.Complete ∧ next.commandTask.Mute
  leaving : world.Leaving → next.Leaving

section Steps

variable {world next : World}

theorem Left.carried (left : world.Left) (carries : Carries world next) : next.Left :=
  ⟨carries.absent left.1, carries.cancelled left.2⟩

theorem Sound.carried (sound : world.Sound) (carries : Carries world next) : next.Sound := by
  unfold Sound at sound ⊢
  rw [carries.session]
  generalize at_ : world.session = session at sound
  cases session with
  | connecting => exact carries.fresh sound
  | connectFailed failure => exact carries.fresh sound
  | reportingFailure failure => exact carries.fresh sound
  | registering connection => exact carries.fresh sound
  | registered connection found =>
    exact ⟨carries.fresh sound.1, fun absent => (sound.2 absent).carried carries⟩
  | closingEarly => exact ⟨carries.fresh sound.1, sound.2.carried carries⟩
  | aborting reported =>
    cases reported with
    | true => exact carries.mute at_ sound.1 sound.2
    | false => exact carries.told sound
  | removing => exact carries.leaving sound
  | ended => exact ⟨carries.leaving sound.1, carries.absent sound.2⟩
  | announcing connection => exact carries.told sound
  | waiting => exact carries.told sound
  | emitting notice => exact carries.told sound
  | peerClosed reason => exact carries.told sound
  | peerClosing reason => exact carries.told sound
  | failing error => exact carries.told sound
  | failed error => exact carries.told sound
  | reporting ending => exact carries.told sound

/-- A step that leaves the tasks as they are. -/
theorem Carries.aside (session : next.session = world.session)
    (commandTask : next.commandTask = world.commandTask) (emitted : next.emitted = world.emitted)
    (aborted : next.aborted = world.aborted)
    (absent : world.rooms ≠ some .own → next.rooms ≠ some .own)
    (cancelled : world.cancelled = true → next.cancelled = true)
    (fresh : world.Fresh → next.Fresh) :
    Carries world next := by
  have told : world.Told → next.Told := fun told =>
    ⟨fun unreported => (told.clean (commandTask ▸ unreported)).of_emitted emitted,
      fun reported => (told.complete (commandTask ▸ reported)).of_emitted emitted⟩
  refine ⟨session, absent, cancelled, fresh, told, fun _ complete mute => ?_, ?_⟩
  · exact ⟨complete.of_emitted emitted, commandTask ▸ mute⟩
  · rintro (⟨complete, still⟩ | ⟨tells, reason⟩)
    · exact .inl ⟨complete.of_emitted emitted, by rw [commandTask, aborted]; exact still⟩
    · exact .inr ⟨told tells, reason.imp cancelled fun settled => commandTask ▸ settled⟩

/-- A step of the command task.  Where it is to be mute it stays so and tells nothing. -/
theorem Carries.commands (session : next.session = world.session)
    (aborted : next.aborted = world.aborted)
    (absent : world.rooms ≠ some .own → next.rooms ≠ some .own)
    (cancelled : next.cancelled = world.cancelled) (spawned : world.commandTask ≠ .unspawned)
    (told : world.Told → next.Told)
    (mute : world.session = .aborting true ∨ world.aborted = true → world.commandTask.Mute →
      next.commandTask.Mute ∧ next.emitted = world.emitted)
    (settled : world.commandTask.Settled → next.commandTask.Settled) : Carries world next := by
  refine ⟨session, absent, fun was => cancelled.trans was,
    fun fresh => absurd fresh.unspawned spawned, told, fun breaking complete still => ?_, ?_⟩
  · obtain ⟨still, emitted⟩ := mute (.inl breaking) still
    exact ⟨complete.of_emitted emitted, still⟩
  · rintro (⟨complete, unspawned | ⟨abort, still⟩⟩ | ⟨tells, reason⟩)
    · exact absurd unspawned spawned
    · obtain ⟨still, emitted⟩ := mute (.inr abort) still
      exact .inl ⟨complete.of_emitted emitted, .inr ⟨aborted.trans abort, still⟩⟩
    · exact .inr ⟨told tells, reason.imp (fun was => cancelled.trans was) settled⟩

/-- A step of a command task that has not settled a close, by which it tells nothing. -/
theorem Carries.quietly (session : next.session = world.session)
    (aborted : next.aborted = world.aborted)
    (absent : world.rooms ≠ some .own → next.rooms ≠ some .own)
    (cancelled : next.cancelled = world.cancelled) (emitted : next.emitted = world.emitted)
    (spawned : world.commandTask ≠ .unspawned) (unsettled : ¬ world.commandTask.Settled)
    (unreported : ¬ next.commandTask.Reported)
    (mute : world.session = .aborting true ∨ world.aborted = true → world.commandTask.Mute →
      next.commandTask.Mute) :
    Carries world next := by
  have before : ¬ world.commandTask.Reported := fun reported =>
    unsettled (CommandTask.settled_of_reported reported)
  exact .commands session aborted absent cancelled spawned
    (fun told => .of_clean ((told.clean before).of_emitted emitted) unreported)
    (fun abort still => ⟨mute abort still, emitted⟩) fun settled => absurd settled unsettled

theorem removeRoomIf_absent : world.removeRoomIf.rooms ≠ some .own := by
  unfold removeRoomIf
  dsimp only
  split
  case isTrue _ => nofun
  case isFalse absent => exact absent

theorem carries_receive (steps : world.receive = some next) : Carries world next := by
  unfold receive at steps
  split at steps
  case h_1 command rest receiving running queued =>
    cases steps
    exact .quietly rfl rfl id rfl rfl (by rw [receiving]; nofun)
      (by rw [receiving]; exact id) id fun _ _ => trivial
  case h_2 receiving running empty =>
    split at steps
    case isTrue _ =>
      cases steps
      exact .quietly rfl rfl id rfl rfl (by rw [receiving]; nofun)
        (by rw [receiving]; exact id) id fun _ _ => trivial
    case isFalse _ => cases steps
  case h_3 => cases steps

theorem carries_abandon (steps : world.abandon = some next) : Carries world next := by
  unfold abandon at steps
  split at steps
  case h_1 receiving aborted =>
    cases steps
    exact .quietly rfl rfl id rfl rfl (by rw [receiving]; nofun)
      (by rw [receiving]; exact id) id fun _ _ => trivial
  case h_2 command executing aborted =>
    cases steps
    exact .quietly rfl rfl id rfl rfl (by rw [executing]; nofun)
      (by rw [executing]; exact id) id fun _ _ => trivial
  case h_3 => cases steps

theorem carries_execute {reply : Except CoreError (Option RoomLifetimeState)}
    (steps : world.execute reply = some next) (orderly : Orderly world (.execute reply)) :
    Carries world next := by
  unfold execute at steps
  split at steps
  case h_1 command executing running =>
    cases steps
    refine .quietly rfl rfl id rfl rfl (by rw [executing]; nofun) (by rw [executing]; exact id)
      CommandTask.afterCommand_unreported ?_
    -- the command ends before an abort, and after the report of the end only where it is silent
    rintro (breaking | aborted) -
    · exact (orderly breaking command executing).mute
    · rw [running] at aborted
      cases aborted
  case h_2 => cases steps

theorem carries_commandStep (steps : world.commandStep = some next) : Carries world next := by
  unfold commandStep at steps
  generalize standing : world.commandTask = task at steps
  have unsettled : ¬ task.Settled → ¬ world.commandTask.Settled := by
    rw [standing]
    exact id
  cases task with
  | received command =>
    dsimp only at steps
    split at steps
    · cases steps
      exact .quietly rfl rfl id rfl rfl (by rw [standing]; nofun)
        (unsettled id) id fun _ _ => trivial
    split at steps
    · cases steps
      exact .quietly rfl rfl id rfl rfl (by rw [standing]; nofun)
        (unsettled id) id fun _ _ => trivial
    · cases steps
      exact .quietly rfl rfl id rfl rfl (by rw [standing]; nofun)
        (unsettled id) id fun _ _ => trivial
  | closing command =>
    cases steps
    exact .quietly rfl rfl id rfl rfl (by rw [standing]; nofun) (unsettled id) id fun _ _ => trivial
  | reporting ending =>
    cases steps
    refine .commands rfl rfl id rfl (by rw [standing]; nofun) (fun told => ?_)
      (fun _ still => ?_) fun _ => trivial
    · exact ⟨fun unreported => absurd trivial unreported,
        fun _ => (told.clean (by rw [standing]; exact id)).ended rfl⟩
    · rw [standing] at still
      exact still.elim
  | removing =>
    cases steps
    refine .commands rfl rfl (fun _ => removeRoomIf_absent) rfl (by rw [standing]; nofun)
      (fun told => ?_)
      (fun _ still => ?_) fun _ => trivial
    · exact ⟨fun unreported => absurd trivial unreported,
        fun _ => (told.complete (by rw [standing]; exact trivial)).of_emitted rfl⟩
    · rw [standing] at still
      exact still.elim
  | reopening notice =>
    cases steps
    refine .quietly rfl rfl id rfl rfl (by rw [standing]; nofun) (unsettled id) id fun _ still => ?_
    rw [standing] at still
    exact still.elim
  | accepting notice =>
    cases steps
    refine .quietly rfl rfl id rfl rfl (by rw [standing]; nofun) (unsettled id) id fun _ still => ?_
    rw [standing] at still
    exact still.elim
  | emitting notices =>
    cases notices with
    | nil =>
      cases steps
      exact .quietly rfl rfl id rfl rfl (by rw [standing]; nofun)
        (unsettled id) id fun _ _ => trivial
    | cons notice rest =>
      cases steps
      refine .commands rfl rfl id rfl (by rw [standing]; nofun) (fun told => ?_)
        (fun _ still => ?_) fun settled => ?_
      · exact .of_clean ((told.clean (by rw [standing]; exact id)).noticed rfl) id
      · rw [standing] at still
        exact still.elim
      · rw [standing] at settled
        exact settled.elim
  | unspawned => cases steps
  | receiving => cases steps
  | executing command => cases steps
  | closed => cases steps
  | stopped => cases steps

theorem carries_send {command : RoomCommand} : Carries world (world.send command) := by
  unfold send
  split
  case isTrue _ => exact .aside rfl rfl rfl rfl id id fun fresh => { fresh with }
  case isFalse _ => exact .aside rfl rfl rfl rfl id id id

theorem carries_cancel : Carries world world.cancel := by
  unfold cancel
  split
  case h_1 held =>
    refine .aside rfl rfl rfl rfl (fun _ => nofun) (fun _ => rfl) fun fresh => ?_
    exact ⟨fresh.unspawned, fresh.clean, fun _ => ⟨nofun, rfl⟩, fun _ => ⟨nofun, rfl⟩, fun _ => rfl⟩
  case h_2 held =>
    refine .aside rfl rfl rfl rfl (fun _ => nofun) (fun _ => rfl) fun fresh => ?_
    exact ⟨fresh.unspawned, fresh.clean, fun _ => ⟨nofun, rfl⟩, fun _ => ⟨nofun, rfl⟩, fun _ => rfl⟩
  case h_3 empty =>
    refine .aside rfl rfl rfl rfl id (fun _ => rfl) fun fresh => ?_
    exact ⟨fresh.unspawned, fresh.clean, fun set => ⟨(fresh.closing set).1, rfl⟩,
      fun busy => ⟨(fresh.cancelling busy).1, rfl⟩, fun _ => rfl⟩

theorem carries_cancellationStep (steps : world.cancellationStep = some next) :
    Carries world next := by
  unfold cancellationStep at steps
  split at steps
  case h_1 refusing =>
    cases steps
    refine .aside rfl rfl rfl rfl id id fun fresh => ?_
    have left := fresh.cancelling (by rw [refusing]; nofun)
    exact { fresh with cancelling := fun _ => ⟨left.1, left.2⟩ }
  case h_2 closing =>
    cases steps
    refine .aside rfl rfl rfl rfl id id fun fresh => ?_
    have left := fresh.cancelling (by rw [closing]; nofun)
    exact { fresh with
      closing := fun _ => ⟨left.1, left.2⟩
      cancelling := fun _ => ⟨left.1, left.2⟩ }
  case h_3 => cases steps

/-- The sessions that are started later only change whose entry there is. -/
theorem Carries.entry {rooms : Option Holder} (before : world.rooms ≠ some .own)
    (after : rooms ≠ some .own) :
    Carries world { world with rooms } := by
  refine .aside rfl rfl rfl rfl (fun _ => after) id fun fresh => ?_
  have left : Left { world with rooms } := ⟨after, fresh.absent before⟩
  exact ⟨fresh.unspawned, fresh.clean, fun _ => left, fun _ => left, fun _ => left.2⟩

theorem carries_restart (steps : world.restart = some next) : Carries world next := by
  unfold restart at steps
  split at steps
  case isTrue empty =>
    cases steps
    exact .entry (by rw [empty]; nofun) nofun
  case isFalse _ => cases steps

theorem carries_leave (steps : world.leave = some next) : Carries world next := by
  unfold leave at steps
  split at steps
  case isTrue held =>
    cases steps
    exact .entry (by rw [held]; nofun) nofun
  case isFalse _ => cases steps

/-! ## Steps of the session task -/

theorem sound_connect {result : Except ConnectFailure Connection} (sound : world.Sound)
    (steps : world.connect result = some next) : next.Sound := by
  unfold connect at steps
  split at steps
  case h_1 connecting =>
    cases steps
    unfold Sound at sound
    rw [connecting] at sound
    have fresh : Fresh world := sound
    cases result with
    | ok connection => exact { fresh with }
    | error failure => exact { fresh with }
  case h_2 => cases steps

theorem sound_closeEarly (sound : world.Sound) (steps : world.closeEarly = some next) :
    next.Sound := by
  unfold closeEarly at steps
  split at steps
  case h_1 closing =>
    cases steps
    unfold Sound at sound
    rw [closing] at sound
    obtain ⟨fresh, left⟩ := sound
    refine ⟨.inr ⟨.of_clean fresh.clean ?_, .inl left.2⟩, left.1⟩
    show ¬ world.commandTask.Reported
    rw [fresh.unspawned]
    exact id
  case h_2 => cases steps

theorem sound_nextEvent {result : Except CoreError RoomControlEvent} (sound : world.Sound)
    (steps : world.nextEvent result = some next) : next.Sound := by
  unfold nextEvent at steps
  split at steps
  case h_1 waiting =>
    cases steps
    unfold Sound at sound
    rw [waiting] at sound
    have told : Told world := sound
    cases result with
    | ok event => cases event <;> exact { told with }
    | error error => exact { told with }
  case h_2 => cases steps

theorem sound_sessionStep (sound : world.Sound) (orderly : Orderly world .session)
    (steps : world.sessionStep = some next) : next.Sound := by
  unfold sessionStep at steps
  unfold Sound at sound
  unfold Orderly at orderly
  generalize world.session = session at steps sound orderly
  cases session with
  | connectFailed failure =>
    dsimp only at steps sound
    split at steps
    case isTrue _ =>
      cases steps
      exact { sound with }
    case isFalse silent =>
      cases steps
      -- the failure is left out only where `closing` is set, by a cancellation
      have closing : world.closing = true := by
        cases was : world.closing with
        | true => rfl
        | false =>
          rw [was] at silent
          exact absurd rfl silent
      refine .inr ⟨.of_clean sound.clean ?_, .inl (sound.closing closing).2⟩
      show ¬ world.commandTask.Reported
      rw [sound.unspawned]
      exact id
  | reportingFailure failure =>
    cases steps
    exact .inl ⟨sound.clean.ended rfl, .inl sound.unspawned⟩
  | registering connection =>
    dsimp only at steps sound
    split at steps
    case isTrue _ =>
      cases steps
      exact ⟨{ sound with }, nofun⟩
    case isFalse absent =>
      cases steps
      exact ⟨{ sound with }, fun _ => ⟨absent, sound.absent absent⟩⟩
  | registered connection found =>
    obtain ⟨fresh, left⟩ := sound
    dsimp only at steps
    split at steps
    case isTrue early =>
      cases steps
      refine ⟨{ fresh with }, ?_⟩
      obtain missing | closing := Bool.or_eq_true _ _ |>.mp early
      · exact left (by simpa using missing)
      · exact fresh.closing closing
    case isFalse _ =>
      cases steps
      exact Told.of_clean fresh.clean id
  | announcing connection =>
    cases steps
    exact Told.of_clean ((sound.clean orderly).noticed rfl) orderly
  | emitting notice =>
    cases steps
    exact Told.of_clean ((sound.clean orderly).noticed rfl) orderly
  | peerClosed reason =>
    cases steps
    exact { sound with }
  | peerClosing reason =>
    cases steps
    exact { sound with }
  | failing error =>
    cases steps
    exact { sound with }
  | failed error =>
    dsimp only at steps sound
    split at steps <;> cases steps <;> exact { sound with }
  | reporting ending =>
    cases steps
    exact ⟨(sound.clean (CommandTask.unreported_of_mute orderly)).ended rfl, orderly⟩
  | aborting reported =>
    cases steps
    cases reported with
    | true => exact .inl ⟨sound.1, .inr ⟨rfl, sound.2⟩⟩
    | false => exact .inr ⟨{ sound with }, orderly⟩
  | removing =>
    cases steps
    -- the ending was reported here, or whoever closed the room has it to report
    obtain ⟨complete, still⟩ | ⟨told, reason⟩ := sound
    · exact ⟨.inl ⟨complete, still⟩, removeRoomIf_absent⟩
    · exact ⟨.inr ⟨{ told with }, reason⟩, removeRoomIf_absent⟩
  | connecting => cases steps
  | closingEarly => cases steps
  | waiting => cases steps
  | ended => cases steps

theorem sound_step {action : Action} (sound : world.Sound) (orderly : Orderly world action)
    (steps : world.step action = some next) : next.Sound := by
  cases action with
  | connect result => exact sound_connect sound steps
  | closeEarly => exact sound_closeEarly sound steps
  | nextEvent result => exact sound_nextEvent sound steps
  | session => exact sound_sessionStep sound orderly steps
  | receive => exact sound.carried (carries_receive steps)
  | execute reply => exact sound.carried (carries_execute steps orderly)
  | commands => exact sound.carried (carries_commandStep steps)
  | abandon => exact sound.carried (carries_abandon steps)
  | send command =>
    cases steps
    exact sound.carried carries_send
  | cancel =>
    cases steps
    exact sound.carried carries_cancel
  | cancellation => exact sound.carried (carries_cancellationStep steps)
  | restart => exact sound.carried (carries_restart steps)
  | leave => exact sound.carried (carries_leave steps)

end Steps

theorem sound_of_reached {world : World} (reached : Reached Orderly world) : world.Sound := by
  induction reached with
  | init => exact ⟨rfl, nofun, nofun, (absurd rfl ·), (absurd rfl ·)⟩
  | step before allows steps sound => exact sound_step sound allows steps

/-! ## What a sound world has told -/

section Sound

variable {world : World}

theorem Told.endsLast (told : world.Told) : world.EndsLast := by
  by_cases reported : world.commandTask.Reported
  · exact (told.complete reported).endsLast
  · exact (told.clean reported).endsLast

theorem Leaving.endsLast (leaving : world.Leaving) : world.EndsLast := by
  obtain ⟨complete, -⟩ | ⟨told, -⟩ := leaving
  · exact complete.endsLast
  · exact told.endsLast

theorem Sound.endsLast (sound : world.Sound) : world.EndsLast := by
  unfold Sound at sound
  split at sound
  case h_1 => exact sound.clean.endsLast
  case h_2 => exact sound.clean.endsLast
  case h_3 => exact sound.clean.endsLast
  case h_4 => exact sound.clean.endsLast
  case h_5 => exact sound.1.clean.endsLast
  case h_6 => exact sound.1.clean.endsLast
  case h_7 => exact sound.1.endsLast
  case h_8 => exact Leaving.endsLast sound
  case h_9 => exact Leaving.endsLast sound.1
  case h_10 => exact sound.endsLast

/-- A command task that has settled a close ends once it has reported so. -/
theorem reported_of_settled (settled : world.commandTask.Settled)
    (ended : world.commandTask = .unspawned ∨ world.commandTask = .closed ∨
      world.commandTask = .stopped) :
    world.commandTask.Reported := by
  obtain unspawned | closed | stopped := ended
  · rw [unspawned] at settled
    exact settled.elim
  · rw [closed]
    trivial
  · rw [stopped] at settled
    exact settled.elim

theorem Sound.accounted (sound : world.Sound) : world.Accounted := by
  rintro ⟨ended, task⟩ kept
  unfold Sound at sound
  rw [ended] at sound
  obtain ⟨leaving, absent⟩ := sound
  have complete : world.Complete := by
    obtain ⟨complete, -⟩ | ⟨told, cancelled | settled⟩ := leaving
    · exact complete
    · rw [kept] at cancelled
      cases cancelled
    · exact told.complete (reported_of_settled settled task)
  obtain ⟨before, ending, emitted, -⟩ := complete
  exact ⟨⟨before, ending, emitted⟩, absent⟩

end Sound

end World

/-- Over every orderly run of a session: no event follows an end, and a session whose tasks have
ended without a cancellation has told the app so and is not registered. -/
theorem room_session_ends_once {world : World} (reached : Reached Orderly world) :
    world.EndsLast ∧ world.Accounted :=
  have sound := World.sound_of_reached reached
  ⟨sound.endsLast, sound.accounted⟩

def roomOpened : Connection := ⟨"Anna", true, none, none, ⟨0, .untilForegroundEnds, none⟩⟩

/-- The peer closes the room. -/
theorem room_session_ends_once_peer :
    ∃ world, Reached Orderly world ∧ world.Finished ∧
      world.emitted = [.notice (.connected roomOpened), .ending (.closed .userEnded)] ∧
      world.EndsLast ∧ world.Accounted := by
  have start : Reached Orderly .init := .init
  have connected := @Reached.step _ _ _ (.connect (.ok roomOpened)) start trivial rfl
  have registered := @Reached.step _ _ _ .session connected trivial rfl
  have spawned := @Reached.step _ _ _ .session registered trivial rfl
  have announced := @Reached.step _ _ _ .session spawned id rfl
  have left := @Reached.step _ _ _ (.nextEvent (.ok (.peerClosed .userEnded))) announced trivial rfl
  have refusing := @Reached.step _ _ _ .session left trivial rfl
  have closing := @Reached.step _ _ _ .session refusing trivial rfl
  have reported := @Reached.step _ _ _ .session closing trivial rfl
  have aborted := @Reached.step _ _ _ .session reported trivial rfl
  have removed := @Reached.step _ _ _ .session aborted trivial rfl
  have finished := @Reached.step _ _ _ .abandon removed trivial rfl
  exact ⟨_, finished, ⟨rfl, .inr (.inr rfl)⟩, rfl, room_session_ends_once finished⟩

/-- The connection is lost while the command task closes the room: the session task leaves the
report to the command task and aborts it. -/
theorem room_session_never_ends :
    ¬ ∀ world, Reached (fun _ _ => True) world → world.EndsLast ∧ world.Accounted := by
  intro claim
  have start : Reached (fun _ _ => True) .init := .init
  have connected := @Reached.step _ _ _ (.connect (.ok roomOpened)) start trivial rfl
  have registered := @Reached.step _ _ _ .session connected trivial rfl
  have spawned := @Reached.step _ _ _ .session registered trivial rfl
  have announced := @Reached.step _ _ _ .session spawned trivial rfl
  have sent := @Reached.step _ _ _ (.send (.close "user_ended")) announced trivial rfl
  have received := @Reached.step _ _ _ .receive sent trivial rfl
  have requested := @Reached.step _ _ _ .commands received trivial rfl
  have executing := @Reached.step _ _ _ .commands requested trivial rfl
  have lost :=
    @Reached.step _ _ _ (.nextEvent (.error (.transport "connection lost"))) executing trivial rfl
  have refusing := @Reached.step _ _ _ .session lost trivial rfl
  have silent := @Reached.step _ _ _ .session refusing trivial rfl
  have aborting := @Reached.step _ _ _ .session silent trivial rfl
  have removed := @Reached.step _ _ _ .session aborting trivial rfl
  have finished := @Reached.step _ _ _ .abandon removed trivial rfl
  obtain ⟨⟨before, ending, told⟩, -⟩ := (claim _ finished).2 ⟨rfl, .inr (.inr rfl)⟩ rfl
  have last := List.mem_append_right before (List.mem_singleton_self (Event.ending ending))
  rw [← told] at last
  cases List.mem_singleton.mp last

end Envoix.Android.RoomControl
