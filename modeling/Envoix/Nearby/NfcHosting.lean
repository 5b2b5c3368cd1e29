import Envoix.Nearby.NfcTagRuns

/-! # Hosting an invitation over NFC

`NfcInvitationHostApduService.kt`: the store of the hosted message, the session that arms it only
while the phone listens without polling, the controller that gives every presentation a lease, and
the service whose tag the other phone reads.  All of them run on the main thread, where a completion
and a time limit come back as posted callbacks. -/

namespace Envoix.Nfc.Hosting

open ByteCodec

/-! ## The parts -/

structure HostStore where
  generation : Int
  message : Option Bytes

namespace HostStore

def clear (self : HostStore) : HostStore := ⟨self.generation + 1, none⟩

def snapshot (self : HostStore) : Option HostedNdefSnapshot :=
  self.message.map fun message => ⟨self.generation, message⟩

def isCurrent (self : HostStore) (candidate : Int) : Bool :=
  self.message.isSome && self.generation = candidate

end HostStore

inductive NfcPhoneHostingStatus where
  | idle
  | armed
  | requiresAndroid15
  | nfcUnavailable
  | nfcDisabled
  | hceUnavailable
  | listenOnlyUnavailable
  | hceActivationFailed
  | invalidInvitation
deriving DecidableEq

/-- `NfcSafeHostingSession` -/
structure Session where
  status : NfcPhoneHostingStatus
  resumed : Bool
  preferred : Bool
  armedInvitation : Option String
  listenOnly : Bool
  listenOnlyAttemptedThisResume : Bool

/-- `AndroidNfcSafeHostingPlatform` as it answers while one call runs. -/
structure Phone where
  android15 : Bool
  adapter : Bool
  enabled : Bool
  cardEmulation : Bool
  setsTechnology : Bool
  setsPreferredService : Bool

namespace Phone

def unavailableStatus (self : Phone) : Option NfcPhoneHostingStatus :=
  if ¬ self.android15 then some .requiresAndroid15
  else if ¬ self.adapter then some .nfcUnavailable
  else if ¬ self.enabled then some .nfcDisabled
  else if ¬ self.cardEmulation then some .hceUnavailable
  else none

def enterListenOnly (self : Phone) : Bool := self.adapter && self.android15 && self.setsTechnology

def preferHostService (self : Phone) : Bool := self.cardEmulation && self.setsPreferredService

end Phone

/-- What was done to the store and asked of the phone. -/
inductive Act where
  | armed
  | cleared
  | completed
  | enteredListenOnly (confirmed : Bool)
  | reset
  | preferred (accepted : Bool)
  | unpreferred
deriving DecidableEq

/-- The app: `timeouts` are the delayed callbacks by the time they are due, `posted` those of
completions, and `begun` is when the last presentation began. -/
structure App where
  store : HostStore
  service : Option Tag
  session : Session
  presentationActive : Bool
  timeouts : List Nat
  posted : Nat
  listens : Bool
  now : Nat
  begun : Nat
  trace : List Act

def presentationLease : Nat := 30000

namespace App

def start : App where
  store := ⟨0, none⟩
  service := none
  session := ⟨.idle, false, false, none, false, false⟩
  presentationActive := false
  timeouts := []
  posted := 0
  listens := true
  now := 0
  begun := 0
  trace := []

def did (self : App) (act : Act) : App := { self with trace := self.trace ++ [act] }

/-! ## The session -/

/-- `NfcInvitationHostSessions.invalidate` -/
def invalidate (self : App) : App := { self with service := self.service.map Tag.deactivate }

/-- `NfcInvitationHostStore.clear` -/
def clearInvitation (self : App) : App :=
  (invalidate { self with store := self.store.clear }).did .cleared

/-- `NfcInvitationHostStore.arm`, with the message of the invitation. -/
def armInvitation (self : App) : Option Bytes → Bool × App
  | none => (false, self.clearInvitation)
  | some encoded =>
    if encoded = [] ∨ encoded.length > maxNdefMessageBytes then (false, self.clearInvitation)
    else
      (true,
        (invalidate { self with store := ⟨self.store.generation + 1, some encoded⟩ }).did .armed)

def publish (self : App) (status : NfcPhoneHostingStatus) : App :=
  { self with session.status := status }

def clearHostedInvitation (self : App) : App :=
  let self := { self.clearInvitation with session.armedInvitation := none }
  if self.session.preferred then { self.did .unpreferred with session.preferred := false } else self

def restoreDiscoveryTechnology (self : App) : App :=
  let self := if self.session.listenOnly || self.session.listenOnlyAttemptedThisResume then
    self.did .reset
  else self
  { self with session.listenOnly := false, session.listenOnlyAttemptedThisResume := false }

def ensureListenOnly (self : App) (phone : Phone) : Bool × App :=
  if self.session.listenOnly then (true, self)
  else if self.session.listenOnlyAttemptedThisResume then (false, self)
  else
    match phone.unavailableStatus with
    | some status => (false, self.publish status)
    | none =>
      let self := { self.did (.enteredListenOnly phone.enterListenOnly) with
        session.listenOnlyAttemptedThisResume := true }
      if phone.enterListenOnly then (true, { self with session.listenOnly := true }.publish .idle)
      else (false, self.publish .listenOnlyUnavailable)

/-- `NfcSafeHostingSession.setInvitation` from where the invitation is armed. -/
def activate (self : App) (phone : Phone) (invitation : String) (encoded : Option Bytes) : App :=
  match self.armInvitation encoded with
  | (false, self) => self.publish .invalidInvitation
  | (true, self) =>
    let self := self.did (.preferred phone.preferHostService)
    if phone.preferHostService then
      { self with session.preferred := true, session.armedInvitation := some invitation }.publish
        .armed
    else self.clearInvitation.publish .hceActivationFailed

def sessionSetInvitation (self : App) (messageFor : String → Option Bytes) (phone : Phone)
    (invitation : Option String) :
    App :=
  if self.session.resumed ∧ self.session.preferred ∧ invitation ≠ none ∧
      invitation = self.session.armedInvitation ∧ self.session.status = .armed then self
  else
    let self := self.clearHostedInvitation
    if ¬ self.session.resumed then self.publish .idle
    else
      match invitation with
      | none => self.publish .idle
      | some invitation =>
        match self.ensureListenOnly phone with
        | (false, self) => self
        | (true, self) => self.activate phone invitation (messageFor invitation)

/-- `NfcSafeHostingSession.clear` -/
def sessionClear (self : App) : App :=
  let self := self.clearHostedInvitation
  if ¬ self.session.resumed ∨ self.session.listenOnly then self.publish .idle else self

/-- `NfcSafeHostingSession.leaveConnect`, and the rest of its `onPause` and `close`. -/
def sessionLeaveConnect (self : App) : App :=
  (self.clearHostedInvitation.restoreDiscoveryTechnology).publish .idle

/-! ## The controller -/

/-- A presentation ends, and with it its time limit. -/
def endPresentation (self : App) : App := { self with presentationActive := false, timeouts := [] }

def cancelPresentation (self : App) : App := self.endPresentation.sessionClear

def beginPresentation (self : App) (messageFor : String → Option Bytes) (phone : Phone)
    (invitation : Option String) : App :=
  let self := self.cancelPresentation
  let self := { self with presentationActive := true, begun := self.now
                          timeouts := self.timeouts ++ [self.now + presentationLease] }
  self.sessionSetInvitation messageFor phone invitation

def setInvitation (self : App) (messageFor : String → Option Bytes) (phone : Phone)
    (invitation : Option String) : App :=
  if ¬ self.presentationActive then self.sessionSetInvitation messageFor phone none
  else if invitation = none then self.cancelPresentation
  else self.sessionSetInvitation messageFor phone invitation

def onResume (self : App) : App :=
  { self with session.resumed := true, session.listenOnlyAttemptedThisResume := false }

def onPause (self : App) : App :=
  sessionLeaveConnect { self.endPresentation with session.resumed := false }

def leaveConnect (self : App) : App := self.endPresentation.sessionLeaveConnect

def close (self : App) : App :=
  sessionLeaveConnect { self.endPresentation with listens := false, session.resumed := false }

/-! ## The service -/

/-- What the tag asks of the store. -/
def host (self : App) : Host := ⟨self.store.snapshot, self.store.isCurrent⟩

/-- `NfcInvitationHostStore.complete` -/
def complete (self : App) (candidate : Int) : App :=
  if self.store.isCurrent candidate then
    let self := (invalidate { self with store := self.store.clear }).did .completed
    if self.listens then { self with posted := self.posted + 1 } else self
  else self

/-- `processCommandApdu`: the tag reports a message read as the last thing it does. -/
def processCommandApdu (self : App) (tag : Tag) (command : Bytes) : Bytes × App :=
  let (response, left) := tag.process self.host command
  (response, (left.messagesRead.drop tag.messagesRead.length).foldl complete { self with
    service := some left })

inductive Event where
  | resume
  | pause
  | begins (invitation : Option String) (phone : Phone)
  | sets (invitation : Option String) (phone : Phone)
  | cancel
  | leave
  | close
  | serviceCreated
  | serviceDestroyed
  | deactivated
  | command (command : Bytes)
  | postedRuns
  | timeoutRuns
  | passes (milliseconds : Nat)

def step (self : App) (messageFor : String → Option Bytes) : Event → Option App
  | .resume => if self.session.resumed ∨ ¬ self.listens then none else some self.onResume
  | .pause => if self.session.resumed then some self.onPause else none
  | .begins invitation phone => some (self.beginPresentation messageFor phone invitation)
  | .sets invitation phone => some (self.setInvitation messageFor phone invitation)
  | .cancel => some self.cancelPresentation
  | .leave => some self.leaveConnect
  | .close => some self.close
  | .serviceCreated =>
    if self.service.isSome then none else some { self with service := some Tag.new }
  | .serviceDestroyed => some { self with service := none }
  | .deactivated => some self.invalidate
  | .command command =>
    match self.service with
    | none => none
    | some tag => some (self.processCommandApdu tag command).2
  | .postedRuns =>
    if self.posted = 0 then none
    else some { self with posted := self.posted - 1 }.cancelPresentation
  | .timeoutRuns =>
    match self.timeouts with
    | due :: later =>
      if due ≤ self.now then some { self with timeouts := later }.cancelPresentation else none
    | [] => none
  | .passes milliseconds => some { self with now := self.now + milliseconds }

end App

end Envoix.Nfc.Hosting
