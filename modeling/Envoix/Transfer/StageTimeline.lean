import Envoix.Foundation.Dispatcher
import Envoix.Foundation.Fallible

/-! # The timeline of the stages

`TransferStageTimeline` of `envoix-transfer/src/lib.rs`: the stages of a session are recorded from
any thread, and from within the sink that is told of them.  The queue of the events is a
`Dispatcher.Queue`; its lock-protected sections are the two of `record`. -/

namespace Envoix.Transfer.Timeline

open Fallible

/-! ## Stages -/

inductive TransferStage where
  | sessionStarted
  | connectionReady
  | authenticationStarted
  | authenticationComplete
  | manifestOffer
  | manifestAccepted
  | firstPayload
  | payloadComplete
  | deliveryComplete
  | canceled
  | failed
deriving DecidableEq

namespace TransferStage

def order : TransferStage → UInt8
  | .sessionStarted => 0
  | .connectionReady => 1
  | .authenticationStarted => 2
  | .authenticationComplete => 3
  | .manifestOffer => 4
  | .manifestAccepted => 5
  | .firstPayload => 6
  | .payloadComplete => 7
  | .deliveryComplete => 8
  | .canceled | .failed => 9

def bit (self : TransferStage) : UInt16 := 1 <<< self.order.toUInt16

def isTerminal : TransferStage → Bool
  | .deliveryComplete | .canceled | .failed => true
  | _ => false

end TransferStage

inductive TransferDirection where
  | send
  | receive
deriving DecidableEq

abbrev TransferId := String

/-- `TransferEvent::StageTiming` -/
structure StageTiming where
  transferId : Option TransferId
  direction : TransferDirection
  attemptId : UInt64
  stage : TransferStage
  elapsedUs : UInt64
  deltaUs : UInt64
deriving DecidableEq

/-! ## The state -/

structure TransferStageTimelineState where
  transferId : Option TransferId
  seen : UInt16
  lastOrder : Option UInt8
  lastElapsedUs : UInt64
  terminal : Bool

namespace TransferStageTimelineState

def new (transferId : Option TransferId) : TransferStageTimelineState :=
  ⟨transferId, 0, none, 0, false⟩

def bindTransferId (transferId : TransferId) (self : TransferStageTimelineState) :
    TransferStageTimelineState :=
  if self.transferId.isNone then { self with transferId := some transferId } else self

def recordAt (direction : TransferDirection) (attemptId : UInt64) (stage : TransferStage)
    (elapsedUs : UInt64) (self : TransferStageTimelineState) :
    Option StageTiming × TransferStageTimelineState :=
  let order := stage.order
  if self.terminal ∨ self.seen &&& stage.bit ≠ 0 ∨ self.lastOrder.any (order < ·) then (none, self)
  else
    let elapsedUs := max elapsedUs self.lastElapsedUs
    let deltaUs := saturatingSub64 elapsedUs self.lastElapsedUs
    (some ⟨self.transferId, direction, attemptId, stage, elapsedUs, deltaUs⟩, { self with
      seen := self.seen ||| stage.bit
      lastOrder := some order
      lastElapsedUs := elapsedUs
      terminal := stage.isTerminal })

end TransferStageTimelineState

/-- The calls of a timeline; `record` has read the clock when it asks for the lock. -/
inductive TimelineCall where
  | record (stage : TransferStage) (elapsedUs : UInt64)
  | bindTransferId (transferId : TransferId)

/-- What a call does to the state in its first section; only an event makes it go on. -/
def TimelineCall.accept (direction : TransferDirection) (attemptId : UInt64) :
    TimelineCall → TransferStageTimelineState → Option StageTiming × TransferStageTimelineState
  | .record stage elapsedUs, state => state.recordAt direction attemptId stage elapsedUs
  | .bindTransferId transferId, state => (none, state.bindTransferId transferId)

abbrev TimelineWorld := Dispatcher.World TransferStageTimelineState TimelineCall StageTiming

/-- The worlds that the calls of any threads lead to. -/
abbrev Reached (transferId : Option TransferId) (direction : TransferDirection)
    (attemptId : UInt64) :
    TimelineWorld → Prop :=
  Dispatcher.Reached (TimelineCall.accept direction attemptId) (.new transferId)

/-! ## What was accepted -/

/-- The events follow one another from a time on. -/
def Timed : UInt64 → List StageTiming → Prop
  | _, [] => True
  | last, event :: events =>
    last ≤ event.elapsedUs ∧ event.deltaUs.toNat = event.elapsedUs.toNat - last.toNat ∧
      Timed event.elapsedUs events

/-- The time of the last event. -/
def latest : UInt64 → List StageTiming → UInt64
  | last, [] => last
  | _, event :: events => latest event.elapsedUs events

theorem timed_append_one {start : UInt64} {events : List StageTiming} {event : StageTiming}
    (timed : Timed start events) (later : latest start events ≤ event.elapsedUs)
    (delta : event.deltaUs.toNat = event.elapsedUs.toNat - (latest start events).toNat) :
    Timed start (events ++ [event]) := by
  induction events generalizing start with
  | nil => exact ⟨later, delta, trivial⟩
  | cons first events ih => exact ⟨timed.1, timed.2.1, ih timed.2.2 later delta⟩

theorem latest_append_one {start : UInt64} {events : List StageTiming} {event : StageTiming} :
    latest start (events ++ [event]) = event.elapsedUs := by
  induction events generalizing start with
  | nil => rfl
  | cons first events ih => exact ih

/-- What the state says of the events accepted so far. -/
structure Chronicle (state : TransferStageTimelineState) (accepted : List StageTiming) : Prop where
  increasing : (accepted.map fun event => event.stage.order).Pairwise (· < ·)
  below : ∀ event ∈ accepted, ∃ last, state.lastOrder = some last ∧ event.stage.order ≤ last
  seen : ∀ stage : TransferStage, state.lastOrder = some stage.order → state.seen &&& stage.bit ≠ 0
  running : state.terminal = false → ∀ event ∈ accepted, event.stage.isTerminal = false
  final : ∀ before event after, accepted = before ++ event :: after →
    event.stage.isTerminal = true → after = []
  timed : Timed 0 accepted
  clock : state.lastElapsedUs = latest 0 accepted

section Chronicle

variable {state : TransferStageTimelineState} {accepted : List StageTiming} {stage : TransferStage}

theorem bit_ne_zero (stage : TransferStage) : stage.bit ≠ 0 := by cases stage <;> decide

theorem or_and_self (left right : UInt16) : (left ||| right) &&& right = right := by
  have absorbs : ∀ left right : Bool, ((left || right) && right) = right := by decide
  apply UInt16.eq_of_toBitVec_eq
  rw [UInt16.toBitVec_and, UInt16.toBitVec_or]
  ext index
  simp only [BitVec.getElem_and, BitVec.getElem_or]
  exact absorbs _ _

theorem Chronicle.new (transferId : Option TransferId) : Chronicle (.new transferId) [] :=
  ⟨.nil, nofun, nofun, nofun, by simp, trivial, rfl⟩

theorem Chronicle.recordAt (chronicle : Chronicle state accepted) (direction : TransferDirection)
    (attemptId : UInt64) (stage : TransferStage) (elapsedUs : UInt64) :
    Chronicle (state.recordAt direction attemptId stage elapsedUs).2
      (accepted ++ (state.recordAt direction attemptId stage elapsedUs).1.toList) := by
  unfold TransferStageTimelineState.recordAt
  by_cases refused : state.terminal ∨ state.seen &&& stage.bit ≠ 0 ∨
    state.lastOrder.any (stage.order < ·)
  · rw [if_pos refused]
    exact (List.append_nil accepted).symm ▸ chronicle
  · rw [if_neg refused]
    simp only [not_or, Bool.not_eq_true, not_not] at refused
    obtain ⟨running, unseen, ordered⟩ := refused
    have above : ∀ event ∈ accepted, event.stage.order < stage.order := by
      intro event listed
      obtain ⟨last, last_eq, below⟩ := chronicle.below event listed
      rw [last_eq, Option.any_some, decide_eq_false_iff_not, UInt8.not_lt] at ordered
      refine UInt8.lt_of_le_of_ne (UInt8.le_trans below ordered) fun same => ?_
      -- the last order is the stage's own, which was seen
      have own : last = stage.order := UInt8.le_antisymm ordered (same ▸ below)
      exact chronicle.seen stage (own ▸ last_eq) unseen
    refine ⟨?_, ?_, ?_, ?_, ?_, ?_, ?_⟩
    · show ((accepted ++ [_]).map _).Pairwise _
      rw [List.map_append, List.pairwise_append]
      refine ⟨chronicle.increasing, List.pairwise_singleton _ _, fun order listed new single => ?_⟩
      obtain ⟨event, earlier, rfl⟩ := List.mem_map.mp listed
      obtain rfl := List.mem_singleton.mp single
      exact above event earlier
    · intro event listed
      obtain listed | new := List.mem_append.mp listed
      · exact ⟨_, rfl, UInt8.le_of_lt (above event listed)⟩
      · obtain rfl := List.mem_singleton.mp new
        exact ⟨_, rfl, UInt8.le_refl _⟩
    · intro other same
      have bits : other.bit = stage.bit :=
        congrArg (1 <<< UInt8.toUInt16 ·) (Option.some.inj same).symm
      show (state.seen ||| stage.bit) &&& other.bit ≠ 0
      rw [bits, or_and_self]
      exact bit_ne_zero stage
    · intro still event listed
      obtain listed | new := List.mem_append.mp listed
      · exact chronicle.running running event listed
      · obtain rfl := List.mem_singleton.mp new
        exact still
    · intro before event after split terminal
      obtain rfl | ⟨after, last, rfl⟩ := List.eq_nil_or_concat after
      · rfl
      -- an event before the new one is not terminal
      · rw [List.concat_eq_append, ← List.cons_append, ← List.append_assoc] at split
        have old := List.append_inj_left' split rfl
        have listed : event ∈ accepted := by
          rw [old]
          exact List.mem_append_right _ List.mem_cons_self
        rw [chronicle.running running event listed] at terminal
        cases terminal
    · refine timed_append_one chronicle.timed ?_ ?_
      · rw [← chronicle.clock]
        exact UInt64.le_iff_toNat_le.mpr ((Nat.le_max_right _ _).trans_eq (toNat_max64 _ _).symm)
      · rw [← chronicle.clock]
        exact saturatingSub64_toNat _ _
    · show _ = latest 0 (accepted ++ [_])
      rw [latest_append_one]

theorem Chronicle.accept (chronicle : Chronicle state accepted) (direction : TransferDirection)
    (attemptId : UInt64) (call : TimelineCall) :
    Chronicle (call.accept direction attemptId state).2
      (accepted ++ (call.accept direction attemptId state).1.toList) := by
  cases call with
  | record stage elapsedUs => exact chronicle.recordAt direction attemptId stage elapsedUs
  | bindTransferId transferId =>
    have same : Chronicle (state.bindTransferId transferId) accepted := by
      unfold TransferStageTimelineState.bindTransferId
      split
      case isTrue _ =>
        exact ⟨chronicle.increasing, chronicle.below, chronicle.seen, chronicle.running,
          chronicle.final, chronicle.timed, chronicle.clock⟩
      case isFalse _ => exact chronicle
    exact (List.append_nil accepted).symm ▸ same

end Chronicle

/-- Whatever calls interleave, the sink receives what was accepted, once and in order, and never
within itself; and what was accepted goes from stage to stage and forward in time. -/
theorem timeline_dispatch (transferId : Option TransferId) (direction : TransferDirection)
    (attemptId : UInt64) (world : TimelineWorld)
    (reached : Reached transferId direction attemptId world) :
    ((∀ thread, world.calls thread = []) → world.delivered = world.accepted) ∧
    (world.accepted.map fun event => event.stage.order).Pairwise (· < ·) ∧
    (∀ before event after, world.accepted = before ++ event :: after →
      event.stage.isTerminal = true → after = []) ∧
    Timed 0 world.accepted ∧
    ∀ thread, (world.calls thread).countP Dispatcher.Frame.isDelivering ≤ 1 := by
  have chronicle : Chronicle world.queue.state world.accepted :=
    reached.invariant (.new transferId) fun _ _ call chronicle =>
      chronicle.accept direction attemptId call
  exact ⟨reached.quiet, chronicle.increasing, chronicle.final, chronicle.timed, reached.single.1⟩

/-- Two threads: the second records while the first delivers, and returns; the first delivers for
it. -/
theorem timeline_dispatch_two :
    ∃ world : TimelineWorld, world.delivered.map StageTiming.stage =
      [.sessionStarted, .connectionReady] ∧
      Timed 0 world.accepted := by
  have start : Reached none .send 1 _ := .init
  have called := start.step (.call 0 (.record .sessionStarted 5) (.inl rfl))
  have accepted := called.step (@Dispatcher.Step.submit _ _ _ _ _ 0 _ _ rfl)
  have popped := accepted.step (@Dispatcher.Step.next _ _ _ _ _ 0 _ rfl)
  have delivering := popped.step (@Dispatcher.Step.deliver _ _ _ _ _ 0 _ _ rfl)
  have other := delivering.step (.call 1 (.record .connectionReady 3) (.inl rfl))
  have queued := other.step (@Dispatcher.Step.submit _ _ _ _ _ 1 _ _ rfl)
  have looping := queued.step (@Dispatcher.Step.delivered _ _ _ _ _ 0 _ rfl)
  have again := looping.step (@Dispatcher.Step.next _ _ _ _ _ 0 _ rfl)
  have last := again.step (@Dispatcher.Step.deliver _ _ _ _ _ 0 _ _ rfl)
  exact ⟨_, rfl, (timeline_dispatch none .send 1 _ last).2.2.2.1⟩

end Envoix.Transfer.Timeline
