import Envoix.Foundation.Custody

/-! # The room workflow of the app

`RoomControlWorkflow.kt`: the calls of the screens, the events of the gateway and the gateway calls
that are still running, one after another on the scope of the view model.  An offer, its completion
and an offer that is shown are known here by their number, beside the ids that the source
compares. -/

namespace Envoix.Android.RoomWorkflow

/-! ## The state -/

inductive RoomControlPhase where
  | none
  | hosting
  | joining
  | connected
  | legacy
  | closed
  | failed
deriving DecidableEq

inductive RoomCloseReason where
  | userEnded
  | idleExpired
  | invitationExpired
  | peerEnded
  | backgrounded
  | networkLost
  | protocolFailure
deriving DecidableEq

structure RoomControlInvite where
  payload : String
  expiresAtEpochMs : Nat
deriving DecidableEq

structure RoomLifetimeSnapshot where
  revision : Int
  idleDeadlineEpochMs : Option Nat

/-- An offer of the peer by its id, and the how-manieth that was shown. -/
structure ShownOffer where
  place : Nat
  id : String
deriving DecidableEq

structure RoomControlUiState where
  phase : RoomControlPhase
  invite : Option RoomControlInvite
  verificationCode : Option String
  creator : Bool
  lifetimeRevision : Int
  idleDeadlineEpochMs : Option Nat
  incomingOffer : Option ShownOffer
  outgoingOfferPending : Bool
  closeReason : Option RoomCloseReason
  error : Option String

namespace RoomControlUiState

def initial : RoomControlUiState := ⟨.none, none, none, false, -1, none, none, false, none, none⟩

def connected (self : RoomControlUiState) : Bool := self.phase = .connected

def live (self : RoomControlUiState) : Bool :=
  self.phase = .hosting || self.phase = .joining || self.phase = .connected

end RoomControlUiState

/-- What a completion of `offer` was called for; `dropped` is one that was forgotten without a
call. -/
inductive Settlement where
  | refused
  | accepted (offerId : String)
  | rejected (offerId : String) (reason : Option String)
  | commandFailed (offerId : Option String) (message : String)
  | callFailed (offer : Nat) (message : String)
  | roomEnded (message : String)
  | dropped
deriving DecidableEq

/-- The error that a completion is called with. -/
def Settlement.error : Settlement → Option String
  | .refused => some "Another file offer is already waiting"
  | .accepted _ | .dropped => none
  | .rejected _ reason => some (reason.getD "The other device declined the file offer")
  | .commandFailed _ message | .callFailed _ message | .roomEnded message => some message

/-- What became of an offer that was shown. -/
inductive Fate where
  | answered (accept : Bool)
  | replaced
  | wiped (accepted : Nat)
  | roomEnded
deriving DecidableEq

/-- A gateway call that has not returned. -/
inductive Task where
  | lifecycle
  | command
  | idleClose
  | offer (number : Nat)
  | respond (number place : Nat) (accept : Bool)
deriving DecidableEq

/-- The workflow, and a record of the offers it was given, of those it has shown and of the answers
it was asked for: `completions`, `fates` and `answers` say what became of them. -/
structure Workflow where
  available : Bool
  state : RoomControlUiState
  activeTransferCount : Nat
  idleTicker : Option (Int × Nat)
  hostingExpiry : Option RoomControlInvite
  incomingOfferExpiry : Option String
  outgoingOfferCompletion : Option Nat
  outgoingOfferId : Option String
  idleCloseRequestedRevision : Option Int
  tasks : List Task
  offers : List String
  completions : List (Nat × Settlement)
  shown : List String
  fates : List (Nat × Fate)
  responses : Nat
  answers : List (Nat × Option String)

namespace Workflow

def start (available : Bool) : Workflow :=
  ⟨available, .initial, 0, none, none, none, none, none, none, [], [], [], [], [], 0, []⟩

def launchGateway (self : Workflow) (task : Task) : Workflow :=
  { self with tasks := self.tasks ++ [task] }

def showError (self : Workflow) (message : String) : Workflow :=
  { self with state.error := some message }

/-- The offer that is shown, if one is, goes for this reason. -/
def hideOffer (self : Workflow) (fate : Fate) : Workflow :=
  match self.state.incomingOffer with
  | none => self
  | some offer =>
    { self with state.incomingOffer := none, fates := self.fates ++ [(offer.place, fate)] }

/-- Calls the completion that waits, if one does, and forgets it. -/
def settle (self : Workflow) (settlement : Settlement) : Workflow :=
  match self.outgoingOfferCompletion with
  | none => { self with outgoingOfferId := none }
  | some number =>
    { self with
      completions := self.completions ++ [(number, settlement)]
      outgoingOfferCompletion := none
      outgoingOfferId := none }

def completeOutgoingOffer (self : Workflow) (settlement : Settlement) : Workflow :=
  { self.settle settlement with state.outgoingOfferPending := false }

/-- A new room begins on the screen; what waits for the old one stays. -/
def reset (self : Workflow) (state : RoomControlUiState) : Workflow :=
  { self.hideOffer .roomEnded with state := state }

/-! ## Calls of the screens -/

def host (self : Workflow) (verificationCode : Option String) : Workflow :=
  if ¬ self.available then self.showError "Room connections are unavailable in this build"
  else
    (self.reset { RoomControlUiState.initial with
      phase := .hosting, verificationCode }).launchGateway .lifecycle

def join (self : Workflow) : Workflow :=
  if ¬ self.available then self.showError "Room connections are unavailable in this build"
  else (self.reset { RoomControlUiState.initial with phase := .joining }).launchGateway .lifecycle

def refreshInvite (self : Workflow) : Workflow :=
  if self.state.phase ≠ .hosting ∨ ¬ self.available ∨ self.state.verificationCode ≠ none then self
  else { self with state.error := none }.launchGateway .command

def offer (self : Workflow) (id : String) : Workflow :=
  let number := self.offers.length
  let self := { self with offers := self.offers ++ [id] }
  if ¬ self.state.connected ∨ self.state.incomingOffer ≠ none ∨ self.outgoingOfferId ≠ none then
    { self with completions := self.completions ++ [(number, .refused)] }
  else
    { self with outgoingOfferId := some id, outgoingOfferCompletion := some number
                state.outgoingOfferPending := true, state.error := none }.launchGateway
                  (.offer number)

/-- `respondToOffer`; its completion is known by the number of the call. -/
def respondToOffer (self : Workflow) (offerId : String) (accept : Bool) : Workflow :=
  let number := self.responses
  let self := { self with responses := number + 1 }
  match self.state.incomingOffer with
  | none => { self with answers := self.answers ++ [(number, some "The file offer has expired")] }
  | some offer =>
    if offer.id ≠ offerId then
      { self with answers := self.answers ++ [(number, some "The file offer has expired")] }
    else
      let self := { self with incomingOfferExpiry := none }
      let self := if accept then self else self.hideOffer (.answered false)
      self.launchGateway (.respond number offer.place accept)

def setKeepOpen (self : Workflow) : Workflow :=
  if ¬ self.state.connected ∨ ¬ self.state.creator then self else self.launchGateway .command

def updateActiveTransfers (self : Workflow) (count : Int) : Workflow :=
  let normalized := count.toNat
  if self.activeTransferCount = normalized then self
  else if ¬ self.state.connected then { self with activeTransferCount := normalized }
  else
    let wasActive := decide (self.activeTransferCount > 0)
    let isActive := decide (normalized > 0)
    let self := { self with activeTransferCount := normalized }
    if wasActive ≠ isActive then self.launchGateway .command else self

def markClosed (self : Workflow) (reason : RoomCloseReason) : Workflow :=
  let self := { self with idleTicker := none, hostingExpiry := none, incomingOfferExpiry := none }
  let self :=
    (self.settle (.roomEnded "The room closed before the offer was accepted")).hideOffer .roomEnded
  { self with
    idleCloseRequestedRevision := none
    state.phase := .closed, state.invite := none, state.verificationCode := none
    state.outgoingOfferPending := false, state.idleDeadlineEpochMs := none,
    state.closeReason := some reason }

def clear (self : Workflow) : Workflow :=
  let self := { self with
    idleTicker := none, hostingExpiry := none, incomingOfferExpiry := none, activeTransferCount := 0
    idleCloseRequestedRevision := none }
  -- the completion is not called
  (self.settle .dropped).reset .initial

def close (self : Workflow) (reason : RoomCloseReason) : Workflow :=
  if self.state.phase = .legacy then self.clear
  else if ¬ self.state.live then self
  else if reason = .idleExpired then
    if ¬ self.state.connected ∨ ¬ self.state.creator ∨
        self.idleCloseRequestedRevision = some self.state.lifetimeRevision then self
    else
      { self with
        idleCloseRequestedRevision := some self.state.lifetimeRevision }.launchGateway .idleClose
  else (self.markClosed reason).launchGateway .command

def setLegacy (self : Workflow) : Workflow :=
  { self with idleTicker := none }.reset { RoomControlUiState.initial with phase := .legacy }

def stop (self : Workflow) : Workflow :=
  { self with idleTicker := none, hostingExpiry := none, incomingOfferExpiry := none }

/-- A failed `host` or `join`; what waits for an outcome stays. -/
def failLifecycle (self : Workflow) (message : String) : Workflow :=
  let self := self.hideOffer .roomEnded
  { self with
    idleTicker := none, hostingExpiry := none, incomingOfferExpiry := none
    state.phase := .failed, state.invite := none, state.verificationCode := none
    state.outgoingOfferPending := false, state.idleDeadlineEpochMs := none,
    state.error := some message }

/-! ## Events of the gateway -/

inductive RoomControlEvent where
  | hosting (invite : RoomControlInvite)
  | joining
  | connected (creator : Bool) (lifetime : RoomLifetimeSnapshot)
  | incomingOffer (offerId : String)
  | offerAccepted (offerId : String)
  | offerRejected (offerId : String) (reason : Option String)
  | commandFailed (command : String) (offerId : Option String) (message : String)
  | lifetimeChanged (lifetime : RoomLifetimeSnapshot)
  | closed (reason : RoomCloseReason)
  | failed (message : String)

def startLifetimeTicker (self : Workflow) : Workflow :=
  { self with idleTicker := self.state.idleDeadlineEpochMs.map fun deadline =>
    (self.state.lifetimeRevision, deadline) }

def applyLifetime (self : Workflow) (lifetime : RoomLifetimeSnapshot) : Workflow :=
  if lifetime.revision ≤ self.state.lifetimeRevision then self
  else
    { self with
      idleCloseRequestedRevision := none
      state.lifetimeRevision := lifetime.revision
      state.idleDeadlineEpochMs := lifetime.idleDeadlineEpochMs }.startLifetimeTicker

def handle (self : Workflow) : RoomControlEvent → Workflow
  | .hosting invite =>
    if self.state.phase ≠ .hosting then self
    else { self with state.invite := some invite, state.closeReason := none, state.error := none
                     hostingExpiry := some invite }
  | .joining => if self.state.phase ≠ .joining then self else { self with state.error := none }
  | .connected creator lifetime =>
    if self.state.phase ≠ .hosting ∧ self.state.phase ≠ .joining ∧
      self.state.phase ≠ .connected then self
    else
      ({ self with
        activeTransferCount := 0, idleCloseRequestedRevision := none, hostingExpiry := none }.reset
        { RoomControlUiState.initial with
          phase := .connected, creator, lifetimeRevision := lifetime.revision
          idleDeadlineEpochMs := lifetime.idleDeadlineEpochMs }).startLifetimeTicker
  | .incomingOffer offerId =>
    if ¬ self.state.connected then self
    else
      let self := self.hideOffer .replaced
      { self with
        state.incomingOffer := some ⟨self.shown.length, offerId⟩
        shown := self.shown ++ [offerId]
        incomingOfferExpiry := some offerId }
  | .offerAccepted offerId =>
    if some offerId = self.outgoingOfferId then
      self.completeOutgoingOffer (.accepted offerId)
    else self
  | .offerRejected offerId reason =>
    if some offerId = self.outgoingOfferId then
      self.completeOutgoingOffer (.rejected offerId reason)
    else self
  | .commandFailed command offerId message =>
    if command = "offer" ∧ offerId = self.outgoingOfferId then
      self.completeOutgoingOffer (.commandFailed offerId message)
    else if command = "close" then
      { self with idleCloseRequestedRevision := none }.showError message
    else self.showError message
  | .lifetimeChanged lifetime =>
    if ¬ self.state.connected then self else self.applyLifetime lifetime
  | .closed reason =>
    if self.state.phase = .none ∨ self.state.phase = .legacy then self
    else { self with hostingExpiry := none }.markClosed reason
  | .failed message =>
    if self.state.phase = .none ∨ self.state.phase = .legacy then self
    else
      let self := (self.settle (.roomEnded message)).hideOffer .roomEnded
      { self with
        idleCloseRequestedRevision := none, idleTicker := none, hostingExpiry := none,
        incomingOfferExpiry := none
        state.phase := .failed, state.invite := none, state.verificationCode := none
        state.outgoingOfferPending := false, state.idleDeadlineEpochMs := none,
        state.error := some message }

/-! ## Gateway calls that return -/

/-- The continuation of a gateway call; `failure` is the message of what it threw. -/
def resume (self : Workflow) (failure : Option String) : Task → Workflow
  | .lifecycle =>
    match failure with
    | none => self
    | some message => self.failLifecycle message
  | .command =>
    match failure with
    | none => self
    | some message => self.showError message
  | .idleClose =>
    match failure with
    | none => self
    | some message => { self with idleCloseRequestedRevision := none }.showError message
  | .offer number =>
    match failure with
    | none => self
    | some message => self.completeOutgoingOffer (.callFailed number message)
  | .respond number place accept =>
    -- accepting hides whatever offer is shown by now
    let hidden :=
      if accept then
        self.hideOffer (if self.state.incomingOffer.map ShownOffer.place = some place then
          .answered true else .wiped place)
      else self
    match failure with
    | none => { hidden with answers := hidden.answers ++ [(number, none)] }
    | some message =>
      { hidden.showError message with answers := hidden.answers ++ [(number, some message)] }

inductive Event where
  | host (verificationCode : Option String)
  | join
  | refreshInvite
  | offer (id : String)
  | respondToOffer (offerId : String) (accept : Bool)
  | setKeepOpen
  | updateActiveTransfers (count : Int)
  | close (reason : RoomCloseReason)
  | setLegacy
  | clear
  | stop
  | showError (message : String)
  | handle (event : RoomControlEvent)
  | returns (index : Nat) (failure : Option String)
  | idleTick (now : Nat)
  | hostingExpires
  | incomingOfferExpires

/-- One turn of the scope; a job that was cancelled has no turn. -/
def step (self : Workflow) : Event → Option Workflow
  | .host verificationCode => some (self.host verificationCode)
  | .join => some self.join
  | .refreshInvite => some self.refreshInvite
  | .offer id => some (self.offer id)
  | .respondToOffer offerId accept => some (self.respondToOffer offerId accept)
  | .setKeepOpen => some self.setKeepOpen
  | .updateActiveTransfers count => some (self.updateActiveTransfers count)
  | .close reason => some (self.close reason)
  | .setLegacy => some self.setLegacy
  | .clear => some self.clear
  | .stop => some self.stop
  | .showError message => some (self.showError message)
  | .handle event => some (self.handle event)
  | .returns index failure =>
    match self.tasks[index]? with
    | none => none
    | some task => some ({ self with tasks := self.tasks.eraseIdx index }.resume failure task)
  | .idleTick now =>
    match self.idleTicker with
    | none => none
    | some (revision, deadline) =>
      if self.state.connected ∧ self.state.lifetimeRevision = revision ∧
        self.state.idleDeadlineEpochMs = some deadline then
        if now < deadline then some self
        else
          let self := { self with idleTicker := none }
          some (if self.state.creator ∧ self.activeTransferCount = 0 then
            self.close .idleExpired else self)
      else some { self with idleTicker := none }
  | .hostingExpires =>
    match self.hostingExpiry with
    | none => none
    | some invite =>
      let self := { self with hostingExpiry := none }
      some (if self.state.phase = .hosting ∧ self.state.invite = some invite then
        self.close .invitationExpired else self)
  | .incomingOfferExpires =>
    match self.incomingOfferExpiry with
    | none => none
    | some offerId =>
      let self := { self with incomingOfferExpiry := none }
      some (if self.state.incomingOffer.map ShownOffer.id = some offerId then
        self.respondToOffer offerId false else self)

end Workflow

end Envoix.Android.RoomWorkflow
