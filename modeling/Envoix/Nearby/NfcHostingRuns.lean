import Envoix.Nearby.NfcHosting
import Mathlib.Logic.Relation

/-! # Hosting fails closed

In every order of lifecycle calls, presentations, time limits, completions and commands of the other
phone, whatever the NFC service answers: a message is hosted only by a resumed session that listens
without polling, and everything asked of the phone is taken back in order. -/

namespace Envoix.Nfc.Hosting

open ByteCodec

/-! ## The order of the acts -/

/-- What the acts so far amount to; `disturbed` says that polling was touched since the last
reset. -/
structure Monitor where
  hosting : Bool
  listening : Bool
  disturbed : Bool
  serving : Bool
deriving DecidableEq

def Monitor.idle : Monitor := ⟨false, false, false, false⟩

/-- The acts in their order: nothing is armed before listen-only mode, the service is preferred only
for an armed message and released after it was cleared, and polling comes back only when nothing is
hosted. -/
def Monitor.step (monitor : Monitor) : Act → Option Monitor
  | .armed =>
    if monitor.listening && !monitor.serving then some { monitor with hosting := true } else none
  | .cleared => some { monitor with hosting := false }
  | .completed => if monitor.hosting then some { monitor with hosting := false } else none
  | .enteredListenOnly confirmed =>
    if !monitor.hosting && !monitor.disturbed then
      some { monitor with listening := confirmed, disturbed := true }
    else none
  | .reset => if !monitor.hosting && !monitor.serving && monitor.disturbed then some .idle else none
  | .preferred accepted =>
    if monitor.hosting && monitor.listening && !monitor.serving then
      some { monitor with serving := accepted }
    else none
  | .unpreferred =>
    if !monitor.hosting && monitor.serving then some { monitor with serving := false } else none

/-- What the app believes of the store and the phone. -/
def App.monitor (app : App) : Monitor where
  hosting := app.store.message.isSome
  listening := app.session.listenOnly
  disturbed := app.session.listenOnly || app.session.listenOnlyAttemptedThisResume
  serving := app.session.preferred

/-- The acts were in order, and the app believes what they amount to. -/
def App.Orderly (app : App) : Prop := app.trace.foldlM Monitor.step .idle = some app.monitor

theorem App.Orderly.did {app next : App} (orderly : app.Orderly) {act : Act}
    (traced : next.trace = app.trace ++ [act]) (steps : app.monitor.step act = some next.monitor) :
    next.Orderly := by
  rw [App.Orderly, traced, List.foldlM_append, orderly]
  simpa using steps

/-! ## What the app keeps -/

/-- A tag in a session serves the message that is hosted. -/
structure Serves (store : HostStore) (tag : Tag) : Prop where
  idle : tag.generation = none → tag.selectedFile = .none
  session : ∀ generation, tag.generation = some generation → ∃ message,
    store.message = some message ∧ store.generation = generation ∧
      tag.ndefFile = some (Tag.fileOf message)

theorem serves_of_none {store : HostStore} {tag : Tag} (generation : tag.generation = none)
    (selected : tag.selectedFile = .none) : Serves store tag :=
  ⟨fun _ => selected, fun other active => by simp [generation] at active⟩

theorem serves_deactivate (store : HostStore) (tag : Tag) : Serves store tag.deactivate :=
  serves_of_none rfl rfl

namespace App

/-- The acts are in order and the service serves what is hosted. -/
structure Core (app : App) : Prop where
  orderly : app.Orderly
  serves : ∀ tag, app.service = some tag → Serves app.store tag

/-- A session that is not resumed leaves polling alone, and a closed controller has none that is
resumed. -/
structure Base (app : App) : Prop extends Core app where
  away : app.session.resumed = false → app.session.listenOnly = false ∧
    app.session.listenOnlyAttemptedThisResume = false
  closed : app.listens = false → app.session.resumed = false
  lease : app.timeouts = if app.presentationActive then [app.begun + presentationLease] else []

structure Sound (messageFor : String → Option Bytes) (app : App) : Prop extends Base app where
  idle : app.session.resumed = false → app.session.status = .idle
  armed : app.session.status = .armed ↔ app.session.preferred = true
  hosting : ∀ message, app.store.message = some message → app.session.preferred = true ∧
    ∃ invitation, app.session.armedInvitation = some invitation ∧
      messageFor invitation = some message
  serving : app.session.preferred = true → app.session.resumed = true ∧
    app.session.listenOnly = true ∧ app.presentationActive = true ∧
    (app.store.message = none → 0 < app.posted)

variable {messageFor : String → Option Bytes} {app : App}

/-! ## The session -/

theorem serves_invalidate {service : Option Tag} {tag : Tag} (store : HostStore)
    (found : service.map Tag.deactivate = some tag) : Serves store tag := by
  obtain ⟨before, -, rfl⟩ := Option.map_eq_some_iff.mp found
  exact serves_deactivate store before

theorem Core.clearInvitation (core : app.Core) : app.clearInvitation.Core where
  orderly := core.orderly.did rfl rfl
  serves := fun _ found => serves_invalidate _ found

/-- What is left when the hosted invitation is cleared. -/
theorem clearHostedInvitation_eq (app : App) : ∃ trace, app.clearHostedInvitation =
    { app with store := app.store.clear, service := app.service.map Tag.deactivate, trace
               session.armedInvitation := none, session.preferred := false } := by
  cases preferred : app.session.preferred with
  | false =>
    refine ⟨app.trace ++ [.cleared], ?_⟩
    simp [clearHostedInvitation, App.clearInvitation, invalidate, did, preferred]
  | true =>
    refine ⟨app.trace ++ [.cleared] ++ [.unpreferred], ?_⟩
    simp [clearHostedInvitation, App.clearInvitation, invalidate, did, preferred]

theorem Core.clearHostedInvitation (core : app.Core) : app.clearHostedInvitation.Core := by
  have cleared := core.clearInvitation
  have forgotten : Core { app.clearInvitation with session.armedInvitation := none } :=
    ⟨cleared.orderly, cleared.serves⟩
  unfold App.clearHostedInvitation
  by_cases preferred : app.session.preferred = true
  · simp only [App.clearInvitation, invalidate, did, preferred, ↓reduceIte] at forgotten ⊢
    exact ⟨forgotten.orderly.did rfl (by simp [Monitor.step, monitor, HostStore.clear]),
      forgotten.serves⟩
  · simp only [App.clearInvitation, invalidate, did, preferred, Bool.false_eq_true, ↓reduceIte]
      at forgotten ⊢
    exact forgotten

/-- Nothing is hosted and the service is not preferred. -/
structure Cleared (app : App) : Prop extends Base app where
  none : app.store.message = none
  released : app.session.preferred = false

theorem Base.clearHostedInvitation (base : app.Base) : app.clearHostedInvitation.Cleared := by
  have core := base.toCore.clearHostedInvitation
  obtain ⟨trace, same⟩ := clearHostedInvitation_eq app
  rw [same] at core ⊢
  exact {
    toCore := core, away := base.away, closed := base.closed, lease := base.lease,
    none := rfl, released := rfl }

theorem Cleared.sound (cleared : app.Cleared) (shown : app.session.status ≠ .armed)
    (idle : app.session.resumed = false → app.session.status = .idle) : app.Sound messageFor where
  toBase := cleared.toBase
  idle := idle
  armed := by simp [shown, cleared.released]
  hosting := fun message hosted => by simp [cleared.none] at hosted
  serving := fun preferred => by simp [cleared.released] at preferred

theorem Cleared.publish (cleared : app.Cleared) (status : NfcPhoneHostingStatus) :
    (app.publish status).Cleared where
  orderly := cleared.orderly
  serves := cleared.serves
  away := cleared.away
  closed := cleared.closed
  lease := cleared.lease
  none := cleared.none
  released := cleared.released

theorem Cleared.idle (cleared : app.Cleared) : (app.publish .idle).Sound messageFor :=
  (cleared.publish .idle).sound (by simp [App.publish]) fun _ => rfl

/-- Another status than armed is shown while the session is resumed. -/
theorem Cleared.shows (cleared : app.Cleared) (resumed : app.session.resumed = true)
    {status : NfcPhoneHostingStatus} (other : status ≠ .armed) :
    (app.publish status).Sound messageFor :=
  (cleared.publish status).sound other fun away => by simp [App.publish, resumed] at away

theorem unavailableStatus_ne_armed {phone : Phone} {status : NfcPhoneHostingStatus}
    (unavailable : phone.unavailableStatus = some status) : status ≠ .armed := by
  rintro rfl
  unfold Phone.unavailableStatus at unavailable
  split_ifs at unavailable <;> simp at unavailable

/-- Listen-only mode is on, or what is shown is why it is not. -/
theorem Cleared.ensureListenOnly (cleared : app.Cleared) (resumed : app.session.resumed = true)
    (shown : app.session.status = .armed → app.session.listenOnly = true)
    (messageFor : String → Option Bytes) (phone : Phone) {entered : Bool} {next : App}
    (ensured : app.ensureListenOnly phone = (entered, next)) :
    (entered = false → next.Sound messageFor) ∧
      (entered = true → next.Cleared ∧ next.session.resumed = true ∧
      next.session.listenOnly = true ∧ next.presentationActive = app.presentationActive) := by
  unfold App.ensureListenOnly at ensured
  by_cases listening : app.session.listenOnly = true
  · simp only [listening, ↓reduceIte, Prod.mk.injEq] at ensured
    obtain ⟨rfl, rfl⟩ := ensured
    exact ⟨by simp, fun _ => ⟨cleared, resumed, listening, rfl⟩⟩
  · have silent : app.session.listenOnly = false := by simpa using listening
    by_cases attempted : app.session.listenOnlyAttemptedThisResume = true
    · simp only [listening, attempted, Bool.false_eq_true, ↓reduceIte, Prod.mk.injEq] at ensured
      obtain ⟨rfl, rfl⟩ := ensured
      exact ⟨fun _ => cleared.sound (fun armed => listening (shown armed)) fun away => by
        simp [resumed] at away, by simp⟩
    · have fresh : app.session.listenOnlyAttemptedThisResume = false := by simpa using attempted
      cases unavailable : phone.unavailableStatus with
      | some status =>
        simp only [listening, attempted, unavailable, Bool.false_eq_true, ↓reduceIte,
          Prod.mk.injEq] at ensured
        obtain ⟨rfl, rfl⟩ := ensured
        exact ⟨fun _ => cleared.shows resumed (unavailableStatus_ne_armed unavailable), by simp⟩
      | none =>
        -- the attempt is remembered whether or not it is confirmed
        have tried (listenOnly confirmed : Bool) (same : listenOnly = confirmed) :
            Cleared { app.did (.enteredListenOnly confirmed) with
              session.listenOnlyAttemptedThisResume := true, session.listenOnly := listenOnly } :=
          { orderly := cleared.orderly.did rfl (by
              simp [Monitor.step, monitor, did, cleared.none, silent, fresh, same])
            serves := cleared.serves
            away := fun away => by simp [did, resumed] at away
            closed := cleared.closed
            lease := cleared.lease
            none := cleared.none
            released := cleared.released }
        cases confirmed : phone.enterListenOnly with
        | true =>
          simp only [listening, attempted, unavailable, confirmed, Bool.false_eq_true, ↓reduceIte,
            Prod.mk.injEq]
            at ensured
          obtain ⟨rfl, rfl⟩ := ensured
          exact ⟨by simp, fun _ => ⟨(tried true true rfl).publish .idle, resumed, rfl, rfl⟩⟩
        | false =>
          simp only [listening, attempted, unavailable, confirmed, Bool.false_eq_true, ↓reduceIte,
            Prod.mk.injEq]
            at ensured
          obtain ⟨rfl, rfl⟩ := ensured
          exact ⟨fun _ => (tried app.session.listenOnly false silent).shows resumed (by simp),
            by simp⟩

theorem Cleared.clearInvitation (cleared : app.Cleared) : app.clearInvitation.Cleared where
  toCore := cleared.toCore.clearInvitation
  away := cleared.away
  closed := cleared.closed
  lease := cleared.lease
  none := rfl
  released := cleared.released

/-- The invitation is armed, or it is cleared again and the status says why. -/
theorem Cleared.activate (cleared : app.Cleared) (resumed : app.session.resumed = true)
    (listening : app.session.listenOnly = true) (active : app.presentationActive = true)
    (phone : Phone) (invitation : String) :
    (app.activate phone invitation (messageFor invitation)).Sound messageFor := by
  unfold App.activate
  have invalid : (app.clearInvitation.publish .invalidInvitation).Sound messageFor :=
    cleared.clearInvitation.shows resumed (by simp)
  cases encoded : messageFor invitation with
  | none => exact invalid
  | some message =>
    by_cases refused : message = [] ∨ message.length > maxNdefMessageBytes
    · simp only [armInvitation, if_pos refused]
      exact invalid
    · simp only [armInvitation, if_neg refused]
      -- Both answers of the platform leave the trace as the monitor allows.
      have orderly : ∀ accepted, Orderly { app with
          store := ⟨app.store.generation + 1, some message⟩,
          service := app.service.map Tag.deactivate
          session.preferred := accepted,
          trace := app.trace ++ [.armed] ++ [.preferred accepted] } := by
        intro accepted
        have armed : Orderly { app with
            store := ⟨app.store.generation + 1, some message⟩,
            service := app.service.map Tag.deactivate
            trace := app.trace ++ [.armed] } :=
          cleared.orderly.did rfl (by simp [Monitor.step, monitor, listening, cleared.released])
        exact armed.did rfl (by simp [Monitor.step, monitor, listening, cleared.released])
      cases accepted : phone.preferHostService with
      | true =>
        simp only [↓reduceIte]
        exact {
          orderly := orderly true
          serves := fun tag found => serves_invalidate _ found
          away := fun away => by simp [invalidate, did, App.publish, resumed] at away
          closed := cleared.closed
          lease := cleared.lease
          idle := fun away => by simp [invalidate, did, App.publish, resumed] at away
          armed := by simp [App.publish]
          hosting := fun other hosted => by
            have same : some message = some other := hosted
            cases same
            exact ⟨rfl, invitation, rfl, encoded⟩
          serving := fun _ =>
            ⟨resumed, listening, active,
              fun none => by simp [invalidate, did, App.publish] at none⟩ }
      | false =>
        simp only [Bool.false_eq_true, ↓reduceIte]
        have core :
          Core
            ((invalidate { app with store := ⟨app.store.generation + 1, some message⟩ }).did
              .armed |>.did
            (.preferred false)) := by
          refine ⟨?_, fun tag found => serves_invalidate _ found⟩
          have ordered := orderly false
          rw [← cleared.released] at ordered
          simpa [Orderly, monitor, invalidate, did, cleared.released] using ordered
        -- The platform refused the service, so what was armed is cleared again.
        have undone :
          Cleared
            ((invalidate { app with store := ⟨app.store.generation + 1, some message⟩ }).did
              .armed |>.did
            (.preferred false)).clearInvitation :=
          { toCore := core.clearInvitation
            away := cleared.away
            closed := cleared.closed
            lease := cleared.lease
            none := rfl
            released := cleared.released }
        exact undone.shows resumed (by simp)

/-- Clearing the hosted invitation leaves the rest of the session. -/
theorem clearHostedInvitation_kept (app : App) :
    app.clearHostedInvitation.session.resumed = app.session.resumed ∧
      app.clearHostedInvitation.session.listenOnly = app.session.listenOnly ∧
      app.clearHostedInvitation.session.status = app.session.status ∧
      app.clearHostedInvitation.presentationActive = app.presentationActive := by
  obtain ⟨trace, same⟩ := clearHostedInvitation_eq app
  rw [same]
  exact ⟨rfl, rfl, rfl, rfl⟩

/-- An invitation is set while a presentation is active; `early` is for the one that is armed
already. -/
theorem Base.sessionSetInvitation (base : app.Base)
    (early : app.session.preferred = true → app.Sound messageFor)
    (shown : app.session.status = .armed → app.session.listenOnly = true) (phone : Phone)
    {invitation : Option String} (active : invitation ≠ none → app.presentationActive = true) :
    (app.sessionSetInvitation messageFor phone invitation).Sound messageFor := by
  unfold App.sessionSetInvitation
  by_cases again : app.session.resumed ∧ app.session.preferred ∧ invitation ≠ none ∧
      invitation = app.session.armedInvitation ∧ app.session.status = .armed
  · rw [if_pos again]
    exact early again.2.1
  · rw [if_neg again]
    have cleared := base.clearHostedInvitation
    obtain ⟨sameResumed, sameListening, sameStatus, sameActive⟩ := clearHostedInvitation_kept app
    by_cases resumed : app.clearHostedInvitation.session.resumed = true
    · cases invitation with
      | none =>
        simp only [resumed, not_true_eq_false, ↓reduceIte]
        exact cleared.idle
      | some invitation =>
        simp only [resumed, not_true_eq_false, ↓reduceIte]
        have presenting := active (by simp)
        obtain ⟨entered, next, ensured⟩ :
          ∃ entered next, app.clearHostedInvitation.ensureListenOnly phone = (entered, next) :=
          ⟨_, _, rfl⟩
        have outcome :=
          cleared.ensureListenOnly resumed (by rwa [sameStatus, sameListening])
            messageFor phone ensured
        rw [ensured]
        cases entered with
        | false => exact outcome.1 rfl
        | true =>
          obtain ⟨ready, stillResumed, listening, stillActive⟩ := outcome.2 rfl
          exact ready.activate stillResumed listening (by rw [stillActive, sameActive, presenting])
            phone invitation
    · simp only [resumed, Bool.false_eq_true, not_false_eq_true, ↓reduceIte]
      exact cleared.idle

theorem Base.sessionClear (base : app.Base)
    (shown : app.session.status = .armed → app.session.listenOnly = true) :
    app.sessionClear.Sound messageFor := by
  have cleared := base.clearHostedInvitation
  obtain ⟨-, sameListening, sameStatus, -⟩ := clearHostedInvitation_kept app
  unfold App.sessionClear
  by_cases quiet : ¬ app.clearHostedInvitation.session.resumed = true ∨
    app.clearHostedInvitation.session.listenOnly = true
  · simp only [if_pos quiet]
    exact cleared.idle
  · simp only [if_neg quiet]
    obtain ⟨resumed, polling⟩ := not_or.mp quiet
    refine cleared.sound (fun armed => polling ?_) fun away => absurd away (by simpa using resumed)
    rw [sameListening]
    exact shown (sameStatus ▸ armed)

/-- Nothing is hosted, and nothing is asked of the phone that was not taken back. -/
structure Restored (app : App) : Prop where
  none : app.store.message = none
  idle : app.monitor = .idle

/-- Whatever was hosted, leaving clears it and restores polling. -/
theorem Core.sessionLeaveConnect (core : app.Core)
    (closed : app.listens = false → app.session.resumed = false)
    (lease : app.timeouts = if app.presentationActive then
      [app.begun + presentationLease] else []) :
    app.sessionLeaveConnect.Sound messageFor ∧ app.sessionLeaveConnect.Restored := by
  have cleared := core.clearHostedInvitation
  obtain ⟨trace, same⟩ := clearHostedInvitation_eq app
  have restored : Core app.clearHostedInvitation.restoreDiscoveryTechnology := by
    rw [same] at cleared ⊢
    cases disturbed : app.session.listenOnly || app.session.listenOnlyAttemptedThisResume with
    | false =>
      simp only [restoreDiscoveryTechnology, disturbed, Bool.false_eq_true, ↓reduceIte]
      -- nothing was done to the radio since the resume, and nothing is restored
      have quiet : app.session.listenOnly = false ∧
          app.session.listenOnlyAttemptedThisResume = false := by
        simpa using disturbed
      refine ⟨?_, cleared.serves⟩
      have orderly := cleared.orderly
      simpa [Orderly, monitor, quiet] using orderly
    | true =>
      simp only [restoreDiscoveryTechnology, disturbed, ↓reduceIte]
      refine ⟨cleared.orderly.did rfl ?_, cleared.serves⟩
      simp [Monitor.step, monitor, disturbed, HostStore.clear, did, Monitor.idle]
  have fields : ∃ trace', app.clearHostedInvitation.restoreDiscoveryTechnology =
      { app with
        store := app.store.clear, service := app.service.map Tag.deactivate, trace := trace'
        session.armedInvitation := none, session.preferred := false
        session.listenOnly := false, session.listenOnlyAttemptedThisResume := false } := by
    rw [same]
    unfold restoreDiscoveryTechnology
    cases disturbed : app.session.listenOnly || app.session.listenOnlyAttemptedThisResume with
    | false => exact ⟨trace, by simp⟩
    | true => exact ⟨trace ++ [.reset], by simp [did]⟩
  obtain ⟨trace', equal⟩ := fields
  unfold App.sessionLeaveConnect
  rw [equal] at restored ⊢
  refine ⟨?_, rfl, rfl⟩
  exact {
    orderly := restored.orderly
    serves := restored.serves
    away := fun _ => ⟨rfl, rfl⟩
    closed := closed
    lease := lease
    idle := fun _ => rfl
    armed := by simp [App.publish]
    hosting := fun message hosted => by simp [App.publish, HostStore.clear] at hosted
    serving := fun preferred => by simp [App.publish] at preferred }

/-! ## The controller -/

theorem Sound.shown (sound : app.Sound messageFor) (armed : app.session.status = .armed) :
    app.session.listenOnly = true :=
  (sound.serving (sound.armed.mp armed)).2.1

/-- Whoever ends the presentation, what is posted and what was delayed does not matter. -/
theorem Sound.cancelPresentation (sound : app.Sound messageFor) (posted : Nat)
    (timeouts : List Nat) :
    (App.cancelPresentation { app with posted, timeouts }).Sound messageFor :=
  Base.sessionClear
    { orderly := sound.orderly, serves := sound.serves, away := sound.away, closed := sound.closed,
      lease := rfl } sound.shown

/-- After a presentation was cancelled nothing is hosted. -/
theorem released_cancelPresentation (app : App) : app.cancelPresentation.session.preferred = false ∧
    app.cancelPresentation.timeouts = [] := by
  obtain ⟨trace, same⟩ := clearHostedInvitation_eq app.endPresentation
  unfold App.cancelPresentation App.sessionClear
  rw [same]
  simp only
  split <;> exact ⟨rfl, rfl⟩

theorem Sound.beginPresentation (sound : app.Sound messageFor) (phone : Phone)
    (invitation : Option String) :
    (app.beginPresentation messageFor phone invitation).Sound messageFor := by
  have cancelled := sound.cancelPresentation app.posted app.timeouts
  obtain ⟨released, untimed⟩ := released_cancelPresentation app
  refine Base.sessionSetInvitation ?_ (fun preferred => ?_) (fun armed => ?_) phone fun _ => rfl
  · exact {
    orderly := cancelled.orderly
    serves := cancelled.serves
    away := cancelled.away
    closed := cancelled.closed
    lease := by
      show app.cancelPresentation.timeouts ++
        [app.cancelPresentation.now + presentationLease] = _
      rw [untimed]
      rfl }
  · have still : app.cancelPresentation.session.preferred = true := preferred
    rw [released] at still
    simp at still
  · exact cancelled.shown armed

theorem Sound.setInvitation (sound : app.Sound messageFor) (phone : Phone)
    (invitation : Option String) :
    (app.setInvitation messageFor phone invitation).Sound messageFor := by
  unfold App.setInvitation
  by_cases active : app.presentationActive = true
  · simp only [active, not_true_eq_false, ↓reduceIte]
    by_cases none : invitation = none
    · rw [if_pos none]
      exact sound.cancelPresentation app.posted app.timeouts
    · rw [if_neg none]
      exact sound.toBase.sessionSetInvitation (fun _ => sound) sound.shown phone fun _ => active
  · simp only [active, Bool.false_eq_true, not_false_eq_true, ↓reduceIte]
    exact sound.toBase.sessionSetInvitation (fun _ => sound) sound.shown phone fun some =>
      absurd rfl some

theorem Sound.onResume (sound : app.Sound messageFor) (away : app.session.resumed = false)
    (listens : app.listens = true) :
    app.onResume.Sound messageFor := by
  obtain ⟨silent, fresh⟩ := sound.away away
  have released : app.session.preferred = false := by
    rw [← Bool.not_eq_true, ← sound.armed, sound.idle away]
    simp
  exact {
    orderly := by
      have orderly := sound.orderly
      simpa [Orderly, monitor, App.onResume, silent, fresh] using orderly
    serves := sound.serves
    away := fun still => by simp [App.onResume] at still
    closed := fun closed => by simp [App.onResume, listens] at closed
    lease := sound.lease
    idle := fun still => by simp [App.onResume] at still
    armed := sound.armed
    hosting := sound.hosting
    serving := fun preferred => by simp [App.onResume, released] at preferred }

theorem Sound.onPause (sound : app.Sound messageFor) :
    app.onPause.Sound messageFor ∧ app.onPause.Restored :=
  Core.sessionLeaveConnect ⟨sound.orderly, sound.serves⟩ (fun _ => rfl) rfl

theorem Sound.leaveConnect (sound : app.Sound messageFor) :
    app.leaveConnect.Sound messageFor ∧ app.leaveConnect.Restored :=
  Core.sessionLeaveConnect ⟨sound.orderly, sound.serves⟩ sound.closed rfl

theorem Sound.close (sound : app.Sound messageFor) :
    app.close.Sound messageFor ∧ app.close.Restored :=
  Core.sessionLeaveConnect ⟨sound.orderly, sound.serves⟩ (fun _ => rfl) rfl

/-! ## The service -/

theorem Sound.complete (sound : app.Sound messageFor) (candidate : Int) :
    (app.complete candidate).Sound messageFor := by
  unfold App.complete
  by_cases current : app.store.isCurrent candidate = true
  · simp only [if_pos current]
    have hosted : app.store.message.isSome = true := by
      unfold HostStore.isCurrent at current
      simp only [Bool.and_eq_true] at current
      exact current.1
    have done (posted : Nat) (counted : app.listens = true → 0 < posted) : Sound messageFor
        { (invalidate { app with store := app.store.clear }).did .completed with posted } :=
      { orderly := sound.orderly.did rfl (by
        simp [Monitor.step, monitor, hosted, HostStore.clear, did, invalidate])
        serves := fun tag found => serves_invalidate _ found
        away := sound.away
        closed := sound.closed
        lease := sound.lease
        idle := sound.idle
        armed := sound.armed
        hosting := fun message left => by simp [did, invalidate, HostStore.clear] at left
        serving := fun preferred => by
          obtain ⟨resumed, listening, active, -⟩ := sound.serving preferred
          refine ⟨resumed, listening, active, fun _ => counted ?_⟩
          -- a resumed session has a controller that still listens
          by_contra deaf
          exact absurd (sound.closed (by simpa using deaf)) (by simp [resumed]) }
    cases listens : app.listens with
    | true => simpa [did, invalidate, listens] using done (app.posted + 1) fun _ => Nat.succ_pos _
    | false =>
      simpa [did, invalidate, listens] using done app.posted fun heard => by simp [listens] at heard
  · simp only [if_neg current]
    exact sound

theorem noteRead_kept (tag : Tag) (file : Bytes) (offset readEnd : Nat) :
    (tag.noteRead file offset readEnd).generation = tag.generation ∧
      (tag.noteRead file offset readEnd).selectedFile = tag.selectedFile ∧
      (tag.noteRead file offset readEnd).ndefFile = tag.ndefFile := by
  cases active : tag.generation with
  | none => simp [Tag.noteRead, active]
  | some generation =>
    rw [noteRead_eq active]
    split <;> exact ⟨active, rfl, rfl⟩

/-- A command leaves a tag that serves what is hosted. -/
theorem serves_process {store : HostStore} {tag : Tag} (serves : Serves store tag)
    (command : Bytes) :
    Serves store (tag.process ⟨store.snapshot, store.isCurrent⟩ command).2 := by
  have outcome := process_outcome ⟨store.snapshot, store.isCurrent⟩ command tag
  generalize (tag.process ⟨store.snapshot, store.isCurrent⟩ command).1 = response at outcome
  generalize (tag.process ⟨store.snapshot, store.isCurrent⟩ command).2 = left at outcome
  cases outcome with
  | refused _ _ kept =>
    obtain rfl | rfl | rfl := kept
    · exact serves
    · exact serves_deactivate store tag
    · exact ⟨fun _ => rfl, serves.session⟩
  | @application generation message asked hosted filled size current =>
    refine ⟨fun none => by simp [activated] at none, fun other active => ?_⟩
    obtain ⟨found, hosts, same⟩ := Option.map_eq_some_iff.mp hosted
    simp only [HostedNdefSnapshot.mk.injEq] at same
    simp only [activated, Option.some.injEq] at active
    exact ⟨message, same.2 ▸ hosts, same.1.trans active, rfl⟩
  | container asked active => exact ⟨fun none => by simp [active] at none, serves.session⟩
  | ndef asked active => exact ⟨fun none => by simp [active] at none, serves.session⟩
  | readContainer asked selected inside => exact serves
  | @readNdef generation file offset requested asked active current selected hosted inside =>
    obtain ⟨sameGeneration, sameSelected, sameFile⟩ :=
      noteRead_kept tag file offset (min (offset + requested) file.length)
    refine ⟨fun none => ?_, fun other still => ?_⟩
    · rw [sameGeneration, active] at none
      simp at none
    · rw [sameGeneration] at still
      rw [sameFile]
      exact serves.session other still

theorem Sound.processCommandApdu (sound : app.Sound messageFor) {tag : Tag}
    (created : app.service = some tag) (command : Bytes) :
    (app.processCommandApdu tag command).2.Sound messageFor := by
  have served : Sound messageFor { app with service := some (tag.process app.host command).2 } :=
    { orderly := sound.orderly
      serves := fun other found => by
        cases found
        exact serves_process (sound.serves tag created) command
      away := sound.away
      closed := sound.closed
      lease := sound.lease
      idle := sound.idle
      armed := sound.armed
      hosting := sound.hosting
      serving := sound.serving }
  have completes : ∀ (candidates : List Int) (app : App), app.Sound messageFor →
      (candidates.foldl App.complete app).Sound messageFor := by
    intro candidates
    induction candidates with
    | nil => exact fun app sound => sound
    | cons candidate candidates ih => exact fun app sound => ih _ (sound.complete candidate)
  exact completes _ _ served

/-! ## Runs -/

theorem Sound.withService (sound : app.Sound messageFor) (service : Option Tag)
    (serves : ∀ tag, service = some tag → Serves app.store tag) :
      Sound messageFor { app with service } where
  orderly := sound.orderly
  serves := serves
  away := sound.away
  closed := sound.closed
  lease := sound.lease
  idle := sound.idle
  armed := sound.armed
  hosting := sound.hosting
  serving := sound.serving

theorem Sound.step (sound : app.Sound messageFor) {event : Event} {next : App}
    (steps : app.step messageFor event = some next) : next.Sound messageFor := by
  cases event with
  | resume =>
    simp only [App.step] at steps
    by_cases refused : app.session.resumed = true ∨ ¬ app.listens = true
    · rw [if_pos refused] at steps
      cases steps
    · rw [if_neg refused, Option.some.injEq] at steps
      subst steps
      obtain ⟨away, listens⟩ := not_or.mp refused
      exact sound.onResume (by simpa using away) (not_not.mp listens)
  | pause =>
    by_cases resumed : app.session.resumed = true
    · simp only [App.step, resumed, ↓reduceIte, Option.some.injEq] at steps
      subst steps
      exact sound.onPause.1
    · simp [App.step, resumed] at steps
  | begins invitation phone =>
    cases steps
    exact sound.beginPresentation phone invitation
  | sets invitation phone =>
    cases steps
    exact sound.setInvitation phone invitation
  | cancel =>
    cases steps
    exact sound.cancelPresentation app.posted app.timeouts
  | leave =>
    cases steps
    exact sound.leaveConnect.1
  | close =>
    cases steps
    exact sound.close.1
  | serviceCreated =>
    simp only [App.step] at steps
    by_cases created : app.service.isSome = true
    · rw [if_pos created] at steps
      cases steps
    · rw [if_neg created, Option.some.injEq] at steps
      subst steps
      refine sound.withService _ fun tag found => ?_
      cases found
      exact serves_of_none rfl rfl
  | serviceDestroyed =>
    cases steps
    exact sound.withService none fun tag found => by simp at found
  | deactivated =>
    cases steps
    exact sound.withService _ fun tag found => serves_invalidate _ found
  | command command =>
    cases created : app.service with
    | none => simp [App.step, created] at steps
    | some tag =>
      simp only [App.step, created, Option.some.injEq] at steps
      subst steps
      exact sound.processCommandApdu created command
  -- A cancellation that was posted earlier may run in a later presentation.
  | postedRuns =>
    by_cases none : app.posted = 0
    · simp [App.step, none] at steps
    · simp only [App.step, none, ↓reduceIte, Option.some.injEq] at steps
      subst steps
      exact sound.cancelPresentation (app.posted - 1) app.timeouts
  | timeoutRuns =>
    cases pending : app.timeouts with
    | nil => simp [App.step, pending] at steps
    | cons due later =>
      by_cases late : due ≤ app.now
      · simp only [App.step, pending, late, ↓reduceIte, Option.some.injEq] at steps
        subst steps
        exact sound.cancelPresentation app.posted later
      · simp [App.step, pending, late] at steps
  | passes milliseconds =>
    cases steps
    exact {
      orderly := sound.orderly, serves := sound.serves, away := sound.away,
      closed := sound.closed
      lease := sound.lease, idle := sound.idle, armed := sound.armed, hosting := sound.hosting
      serving := sound.serving }

theorem sound_start : start.Sound messageFor where
  orderly := rfl
  serves := fun tag found => by simp [start] at found
  away := fun _ => ⟨rfl, rfl⟩
  closed := fun _ => rfl
  lease := rfl
  idle := fun _ => rfl
  armed := by simp [start]
  hosting := fun message hosted => by simp [start] at hosted
  serving := fun preferred => by simp [start] at preferred

/-- Some events take the first app to the second. -/
def Reaches (messageFor : String → Option Bytes) : App → App → Prop :=
  Relation.ReflTransGen fun app next => ∃ event, app.step messageFor event = some next

theorem Reaches.sound (run : Reaches messageFor start app) : app.Sound messageFor := by
  induction run with
  | refl => exact sound_start
  | tail _ last ih =>
    obtain ⟨event, steps⟩ := last
    exact ih.step steps

/-! ## What the other phone can read -/

theorem Sound.refuses (sound : app.Sound messageFor) {tag : Tag} (created : app.service = some tag)
    (command : Bytes) (nothing : app.store.message = none) :
    (app.processCommandApdu tag command).1.length = 2 ∧
      (app.processCommandApdu tag command).1 ≠ success := by
  have serves := sound.serves tag created
  have idle : tag.generation = none := by
    cases active : tag.generation with
    | none => rfl
    | some generation =>
      obtain ⟨message, hosted, -⟩ := serves.session generation active
      simp [nothing] at hosted
  have outcome := process_outcome app.host command tag
  show (tag.process app.host command).1.length = 2 ∧ (tag.process app.host command).1 ≠ success
  generalize (tag.process app.host command).1 = response at outcome ⊢
  generalize (tag.process app.host command).2 = left at outcome
  cases outcome with
  | refused status failed kept => exact ⟨status, failed⟩
  | application asked hosted filled size current =>
    simp [host, HostStore.snapshot, nothing] at hosted
  | container asked active => simp [idle] at active
  | ndef asked active => simp [idle] at active
  | readContainer asked selected inside => simp [serves.idle idle] at selected
  | readNdef asked active current selected hosted inside => simp [idle] at active

theorem Sound.reads (sound : app.Sound messageFor) {tag : Tag} (created : app.service = some tag)
    {command message : Bytes} (hosted : app.store.message = some message) {offset requested : Nat}
    (asked : readRange command = some (offset, requested)) (selected : tag.selectedFile = .ndef) :
    (app.processCommandApdu tag command).1 =
      slice (Tag.fileOf message) offset requested ++ success ∨
      (app.processCommandApdu tag command).1.length = 2 ∧
        (app.processCommandApdu tag command).1 ≠ success := by
  have outcome := process_outcome app.host command tag
  show (tag.process app.host command).1 = _ ∨
    (tag.process app.host command).1.length = 2 ∧ (tag.process app.host command).1 ≠ success
  generalize (tag.process app.host command).1 = response at outcome ⊢
  generalize (tag.process app.host command).2 = left at outcome
  cases outcome with
  | refused status failed kept => exact .inr ⟨status, failed⟩
  | application selects hosts filled size current =>
    simp [isApplicationSelect_of_readRange asked] at selects
  | container selects active => simp [selectedFileId_of_readRange asked] at selects
  | ndef selects active => simp [selectedFileId_of_readRange asked] at selects
  | readContainer range other inside => simp [selected] at other
  | @readNdef generation file offset' requested' range active current other serves inside =>
    obtain ⟨message', hosts, -, same⟩ := (sound.serves tag created).session generation active
    rw [asked, Option.some.injEq, Prod.mk.injEq] at range
    obtain ⟨rfl, rfl⟩ := range
    rw [hosted, Option.some.injEq] at hosts
    subst hosts
    rw [serves, Option.some.injEq] at same
    subst same
    exact .inl rfl

end App

/-- The app after some events, if they can happen. -/
def App.run (messageFor : String → Option Bytes) (events : List App.Event) : Option App :=
  events.foldlM (App.step · messageFor) .start

theorem App.reaches_run {messageFor : String → Option Bytes} {app later : App}
    (events : List App.Event) (ran : events.foldlM (App.step · messageFor) app = some later) :
    App.Reaches messageFor app later := by
  induction events generalizing app with
  | nil =>
    cases ran
    exact .refl
  | cons event events ih =>
    obtain ⟨next, steps, rest⟩ := Option.bind_eq_some_iff.mp ran
    exact .head ⟨event, steps⟩ (ih rest)

end Envoix.Nfc.Hosting
