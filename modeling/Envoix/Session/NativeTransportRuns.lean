import Envoix.Session.NativeTransport
import Mathlib.Data.List.Infix
import Mathlib.Logic.Relation

/-! # The native transport keeps its promises

Over any behaviour of the platform, of TLS and of the callers: bytes keep their order on the way
through the bridge, an end of stream is not invented, the first failure is the one reported, and the
platform is closed once — except after a handshake that ran out of time. -/

namespace Envoix.Session.NativeTransport

open BytePipe ByteCodec
open Envoix.Android.RoomControl (CoreError)

/-! ## What the bridge keeps -/

/-- A read that the inbound task passes on. -/
def Acceptable (read : NativeTransportRead) : Prop :=
  read.bytes.length ≤ ioChunkBytes ∧ (read.bytes = [] → read.endOfStream = true)

instance (read : NativeTransportRead) : Decidable (Acceptable read) :=
  inferInstanceAs (Decidable (_ ∧ _))

/-- The bytes of some reads in their order. -/
def bytesOf (reads : List NativeTransportRead) : Bytes := reads.flatMap NativeTransportRead.bytes

/-- The platform has reported the end of its stream. -/
def ReportedEnd (reads : List NativeTransportRead) : Prop :=
  ∃ earlier read, reads = earlier ++ [read] ∧ read.endOfStream = true

namespace Bridge

/-- How much of what the platform delivered has been written to TLS. -/
def Carries (bridge : Bridge) : Prop :=
  match bridge.inbound with
  | .receiving => bridge.toTls.put = bytesOf bridge.delivered ∧
    ∀ read ∈ bridge.delivered, Acceptable read
  | .writing rest endOfStream =>
    bridge.toTls.put ++ rest = bytesOf bridge.delivered ∧
      (∀ read ∈ bridge.delivered, Acceptable read) ∧
        (endOfStream = true → ReportedEnd bridge.delivered)
  | .stopped =>
    bridge.toTls.put <+: bytesOf (bridge.delivered.filter fun read => Acceptable read) ∧
      bridge.delivered.filter (fun read => Acceptable read) <+: bridge.delivered

/-- Everything the platform delivered was written to TLS, up to the end of its stream. -/
def Ended (bridge : Bridge) : Prop :=
  bridge.inbound = .stopped ∧ bridge.toTls.put = bytesOf bridge.delivered ∧
    ReportedEnd bridge.delivered

/-- What the outbound task and the record of failures keep. -/
structure Outward (bridge : Bridge) : Prop where
  sent : bridge.sent.flatten = bridge.fromTls.taken
  chunks : ∀ chunk ∈ bridge.sent, chunk ≠ [] ∧ chunk.length ≤ ioChunkBytes
  first : bridge.failure = bridge.failures.head?
  outboundStops : bridge.outbound = .stopped →
    bridge.aborted = true ∨ bridge.failures ≠ [] ∨ bridge.fromTls.waiting = [] ∧
      bridge.fromTls.closed = true

structure Sound (bridge : Bridge) : Prop extends Outward bridge where
  carries : bridge.Carries
  inboundStops : bridge.inbound = .stopped → bridge.aborted = true ∨ bridge.failures ≠ [] ∨
    bridge.Ended
  closed : bridge.toTls.closed = true →
    bridge.tlsOpen = false ∨ bridge.Ended ∨ bridge.inbound = .stopped ∧ bridge.outbound = .stopped

end Bridge

theorem bytesOf_append (first second : List NativeTransportRead) :
    bytesOf (first ++ second) = bytesOf first ++ bytesOf second := List.flatMap_append

theorem bytesOf_mono {first second : List NativeTransportRead} (before : first <+: second) :
    bytesOf first <+: bytesOf second := by
  obtain ⟨rest, rfl⟩ := before
  exact ⟨bytesOf rest, (bytesOf_append _ _).symm⟩

theorem filter_acceptable {reads : List NativeTransportRead}
    (all : ∀ read ∈ reads, Acceptable read) :
    reads.filter (fun read => Acceptable read) = reads := by
  rw [List.filter_eq_self]
  intro read listed
  simpa using all read listed

theorem filter_append_refused {reads : List NativeTransportRead} {read : NativeTransportRead}
    (all : ∀ read ∈ reads, Acceptable read) (refused : ¬ Acceptable read) :
    (reads ++ [read]).filter (fun read => Acceptable read) = reads := by
  rw [List.filter_append, filter_acceptable all]
  simp [refused]

namespace Bridge

variable {bridge next : Bridge}

/-- Nothing but the pipes closes when the platform end is dropped. -/
theorem dropPlatformEnd_cases (bridge : Bridge) :
    bridge.dropPlatformEnd = bridge ∨ bridge.inbound = .stopped ∧ bridge.outbound = .stopped ∧
      bridge.dropPlatformEnd =
        { bridge with toTls := bridge.toTls.close, fromTls := bridge.fromTls.close } := by
  unfold dropPlatformEnd
  cases inbound : bridge.inbound with
  | stopped =>
    cases outbound : bridge.outbound with
    | stopped => exact .inr ⟨rfl, rfl, rfl⟩
    | reading | sending => exact .inl rfl
  | receiving | writing => exact .inl rfl

theorem Sound.dropPlatformEnd (sound : bridge.Sound) : bridge.dropPlatformEnd.Sound := by
  obtain same | ⟨inbound, outbound, closes⟩ := dropPlatformEnd_cases bridge
  · rw [same]
    exact sound
  · rw [closes]
    exact {
      carries := by simpa [Carries, inbound] using sound.carries
      sent := sound.sent
      chunks := sound.chunks
      first := sound.first
      inboundStops := sound.inboundStops
      outboundStops := fun stopped => (sound.outboundStops stopped).imp_right fun either =>
        either.imp_right fun drained => ⟨drained.1, rfl⟩
      closed := fun _ => .inr (.inr ⟨inbound, outbound⟩) }

/-- However far the inbound task has come, what it wrote is what was acceptable. -/
theorem Carries.prefix (carries : bridge.Carries) :
    bridge.toTls.put <+: bytesOf (bridge.delivered.filter fun read => Acceptable read) ∧
      bridge.delivered.filter (fun read => Acceptable read) <+: bridge.delivered := by
  unfold Carries at carries
  cases inbound : bridge.inbound with
  | receiving =>
    rw [inbound] at carries
    rw [filter_acceptable carries.2, carries.1]
    exact ⟨List.prefix_refl _, List.prefix_refl _⟩
  | writing rest endOfStream =>
    rw [inbound] at carries
    rw [filter_acceptable carries.2.1, ← carries.1]
    exact ⟨List.prefix_append _ _, List.prefix_refl _⟩
  | stopped =>
    rw [inbound] at carries
    exact carries

/-- The inbound task stops for a reason. -/
theorem Outward.stopInbound (outward : bridge.Outward)
    (carries : bridge.toTls.put <+: bytesOf (bridge.delivered.filter fun read => Acceptable read) ∧
      bridge.delivered.filter (fun read => Acceptable read) <+: bridge.delivered)
    (reason : bridge.aborted = true ∨ bridge.failures ≠ [] ∨
      bridge.toTls.put = bytesOf bridge.delivered ∧ ReportedEnd bridge.delivered)
    (closed : bridge.toTls.closed = true → bridge.tlsOpen = false ∨
      (bridge.toTls.put = bytesOf bridge.delivered ∧ ReportedEnd bridge.delivered) ∨
      bridge.outbound = .stopped) :
    bridge.stopInbound.Sound := by
  have stopped : Sound { bridge with inbound := .stopped } :=
    { sent := outward.sent
      chunks := outward.chunks
      first := outward.first
      outboundStops := outward.outboundStops
      carries
      inboundStops := fun _ => reason.imp_right fun either => either.imp_right fun ended =>
        ⟨rfl, ended.1, ended.2⟩
      closed := fun shut => (closed shut).imp_right fun either =>
        either.imp (fun ended => ⟨rfl, ended.1, ended.2⟩) fun outbound => ⟨rfl, outbound⟩ }
  exact stopped.dropPlatformEnd

/-- While the inbound task runs, only TLS can have closed the pipe to it. -/
theorem Sound.closed_of_running (sound : bridge.Sound) (running : bridge.inbound ≠ .stopped)
    (closed : bridge.toTls.closed = true) : bridge.tlsOpen = false := by
  obtain dropped | ended | ⟨stopped, -⟩ := sound.closed closed
  · exact dropped
  · exact absurd ended.1 running
  · exact absurd stopped running

theorem Sound.stopInbound (sound : bridge.Sound)
    (reason : bridge.aborted = true ∨ bridge.failures ≠ []) :
    bridge.stopInbound.Sound := by
  refine sound.toOutward.stopInbound sound.carries.prefix (reason.imp_right .inl) fun closed => ?_
  exact (sound.closed closed).imp_right fun either =>
    either.imp (fun ended => ended.2) fun both => both.2

theorem Sound.stopOutbound (sound : bridge.Sound)
    (reason : bridge.aborted = true ∨ bridge.failures ≠ [] ∨ bridge.fromTls.waiting = [] ∧
      bridge.fromTls.closed = true) :
    bridge.stopOutbound.Sound := by
  have stopped : Sound { bridge with outbound := .stopped } :=
    { carries := sound.carries
      sent := sound.sent
      chunks := sound.chunks
      first := sound.first
      inboundStops := sound.inboundStops
      outboundStops := fun _ => reason
      closed := fun closed => (sound.closed closed).imp_right fun either =>
        either.imp_right fun both => ⟨both.1, rfl⟩ }
  exact stopped.dropPlatformEnd

theorem failures_recordBridgeFailure (bridge : Bridge) (error : String) :
    (bridge.recordBridgeFailure error).failures ≠ [] := by
  simp [Bridge.recordBridgeFailure]

theorem Outward.recordBridgeFailure (outward : bridge.Outward) (error : String) :
    (bridge.recordBridgeFailure error).Outward where
  sent := outward.sent
  chunks := outward.chunks
  first := by
    show bridge.failure.or (some error) = (bridge.failures ++ [error]).head?
    rw [outward.first]
    cases bridge.failures <;> rfl
  outboundStops := fun _ => .inr (.inl (failures_recordBridgeFailure bridge error))

theorem Sound.recordBridgeFailure (sound : bridge.Sound) (error : String) :
    (bridge.recordBridgeFailure error).Sound where
  toOutward := sound.toOutward.recordBridgeFailure error
  carries := sound.carries
  inboundStops := fun _ => .inr (.inl (failures_recordBridgeFailure bridge error))
  closed := sound.closed

/-! ## Steps of the bridge -/

/-- A read that is not acceptable is recorded and ends the inbound task, and none of it is
written. -/
theorem Sound.refuse (sound : bridge.Sound) (receiving : bridge.inbound = .receiving)
    {read : NativeTransportRead} (refused : ¬ Acceptable read) (error : String) :
    (Bridge.recordBridgeFailure { bridge with delivered := bridge.delivered ++ [read] }
      error).stopInbound.Sound := by
  have carries := sound.carries
  unfold Carries at carries
  rw [receiving] at carries
  have kept := filter_append_refused carries.2 refused
  have outward : Outward { bridge with delivered := bridge.delivered ++ [read] } :=
    { sent := sound.sent, chunks := sound.chunks, first := sound.first,
      outboundStops := sound.outboundStops }
  refine (outward.recordBridgeFailure error).stopInbound ⟨?_, ?_⟩ ?_ ?_
  · show bridge.toTls.put <+: bytesOf ((bridge.delivered ++ [read]).filter fun read =>
      Acceptable read)
    rw [kept, carries.1]
  · show (bridge.delivered ++ [read]).filter (fun read => Acceptable read) <+: bridge.delivered ++
      [read]
    rw [kept]
    exact List.prefix_append _ _
  · exact .inr (.inl (failures_recordBridgeFailure _ error))
  · intro closed
    exact .inl (sound.closed_of_running (by simp [receiving]) closed)

theorem Sound.received (sound : bridge.Sound) (receiving : bridge.inbound = .receiving)
    (result : Except CoreError NativeTransportRead) : (bridge.received result).Sound := by
  cases result with
  | error error =>
    exact (sound.recordBridgeFailure error.toText).stopInbound
      (.inr (failures_recordBridgeFailure _ _))
  | ok read =>
    simp only [Bridge.received]
    by_cases long : read.bytes.length > ioChunkBytes
    · rw [if_pos long]
      exact sound.refuse receiving (fun acceptable => absurd acceptable.1 (Nat.not_le_of_gt long)) _
    · rw [if_neg long]
      by_cases nothing : read.bytes = [] ∧ read.endOfStream = false
      · rw [if_pos nothing]
        refine sound.refuse receiving (fun acceptable => ?_) _
        simp [acceptable.2 nothing.1] at nothing
      · rw [if_neg nothing]
        have acceptable : Acceptable read := by
          refine ⟨Nat.le_of_not_gt long, fun empty => ?_⟩
          simpa [empty] using nothing
        have carries := sound.carries
        unfold Carries at carries
        rw [receiving] at carries
        exact {
          sent := sound.sent
          chunks := sound.chunks
          first := sound.first
          outboundStops := sound.outboundStops
          carries := by
            refine ⟨?_, ?_, fun ended => ⟨bridge.delivered, read, rfl, ended⟩⟩
            · show bridge.toTls.put ++ read.bytes = bytesOf (bridge.delivered ++ [read])
              rw [bytesOf_append, carries.1]
              simp [bytesOf]
            · intro other listed
              obtain earlier | last := List.mem_append.mp listed
              · exact carries.2 other earlier
              · rw [List.mem_singleton.mp last]
                exact acceptable
          inboundStops := fun stopped => by simp at stopped
          closed := fun closed =>
            .inl (sound.closed_of_running (by simp [receiving]) closed) }

theorem Sound.writes (sound : bridge.Sound) {rest : Bytes} {endOfStream : Bool}
    (writing : bridge.inbound = .writing rest endOfStream)
    (wrote : bridge.writes rest endOfStream = some next) :
    next.Sound := by
  have carries := sound.carries
  unfold Carries at carries
  rw [writing] at carries
  have running (closed : bridge.toTls.closed = true) : bridge.tlsOpen = false :=
    sound.closed_of_running (by simp [writing]) closed
  have outward (inbound : Inbound) (toTls : Pipe UInt8 bridgeBytes) :
    Outward { bridge with inbound, toTls } :=
    { sent := sound.sent, chunks := sound.chunks, first := sound.first,
      outboundStops := sound.outboundStops }
  cases rest with
  | nil =>
    -- Nothing is left to write, so all that the platform delivered has been put into the pipe.
    have whole : bridge.toTls.put = bytesOf bridge.delivered := by simpa using carries.1
    cases endOfStream with
    | true =>
      simp only [Bridge.writes, Option.some.injEq] at wrote
      subst wrote
      refine (outward (.writing [] true) bridge.toTls.close).stopInbound ⟨?_,
        ?_⟩ (.inr (.inr ⟨whole, carries.2.2 rfl⟩))
        fun _ => .inr (.inl ⟨whole, carries.2.2 rfl⟩)
      · show bridge.toTls.put <+: bytesOf (bridge.delivered.filter fun read => Acceptable read)
        rw [filter_acceptable carries.2.1, whole]
      · show bridge.delivered.filter (fun read => Acceptable read) <+: bridge.delivered
        rw [filter_acceptable carries.2.1]
    | false =>
      simp only [Bridge.writes, Option.some.injEq] at wrote
      subst wrote
      exact {
        toOutward := outward .receiving bridge.toTls
        carries := ⟨whole, carries.2.1⟩
        inboundStops := fun stopped => by simp at stopped
        closed := fun closed => .inl (running closed) }
  | cons first rest =>
    simp only [Bridge.writes] at wrote
    cases polled : bridge.toTls.pollWrite (first :: rest) with
    | pending => simp [polled] at wrote
    | ready outcome =>
      cases outcome with
      -- the pipe is closed on the other side, and the task records it and stops
      | none =>
        simp only [polled, Option.some.injEq] at wrote
        subst wrote
        exact (sound.recordBridgeFailure _).stopInbound (.inr (failures_recordBridgeFailure _ _))
      | some written =>
        obtain ⟨count, toTls⟩ := written
        simp only [polled, Option.some.injEq] at wrote
        subst wrote
        obtain ⟨put, -, -, stillOpen, -⟩ := Pipe.pollWrite_some polled
        exact {
          toOutward := outward (.writing _ _) toTls
          carries := by
            refine ⟨?_, carries.2.1, carries.2.2⟩
            show toTls.put ++ (first :: rest).drop count = bytesOf bridge.delivered
            rw [put, List.append_assoc, List.take_append_drop]
            exact carries.1
          inboundStops := fun stopped => by simp at stopped
          closed := fun closed => by simp [stillOpen] at closed }

theorem Sound.reads (sound : bridge.Sound) (reading : bridge.outbound = .reading)
    (read : bridge.reads = some next) :
    next.Sound := by
  unfold Bridge.reads at read
  cases polled : bridge.fromTls.pollRead ioChunkBytes with
  | pending => simp [polled] at read
  | ready outcome =>
    obtain ⟨chunk, fromTls⟩ := outcome
    obtain ⟨-, taken, closed, short, drained⟩ := Pipe.pollRead_ready polled
    have moved :
        Sound { bridge with fromTls, sent := bridge.sent ++ [chunk], outbound := .sending chunk } ∨
            chunk = [] := by
      by_cases nothing : chunk = []
      · exact .inr nothing
      · refine .inl ?_
        exact {
          sent := by
            show (bridge.sent ++ [chunk]).flatten = fromTls.taken
            rw [taken, List.flatten_append, sound.sent]
            simp
          chunks := by
            intro other listed
            obtain earlier | last := List.mem_append.mp listed
            · exact sound.chunks other earlier
            · rw [List.mem_singleton.mp last]
              exact ⟨nothing, short⟩
          first := sound.first
          outboundStops := fun stopped => by simp at stopped
          carries := sound.carries
          inboundStops := sound.inboundStops
          closed := fun shut => (sound.closed shut).imp_right fun either =>
            either.imp_right fun both => by simp [reading] at both }
    cases chunk with
    | nil =>
      simp only [polled, Option.some.injEq] at read
      subst read
      obtain ⟨empty, ended, rfl⟩ := drained (by simp [ioChunkBytes]) rfl
      exact sound.stopOutbound (.inr (.inr ⟨empty, ended⟩))
    | cons first chunk =>
      simp only [polled, Option.some.injEq] at read
      subst read
      exact moved.resolve_right (by simp)

theorem Sound.sends (sound : bridge.Sound) {chunk : Bytes}
    (sending : bridge.outbound = .sending chunk) (result : Except CoreError Unit) :
    (bridge.sends result).Sound := by
  cases result with
  | ok done =>
    exact {
      sent := sound.sent
      chunks := sound.chunks
      first := sound.first
      outboundStops := fun stopped => by simp [Bridge.sends] at stopped
      carries := sound.carries
      inboundStops := sound.inboundStops
      closed := fun closed => (sound.closed closed).imp_right fun either =>
        either.imp_right fun both => by simp [sending] at both }
  | error error =>
    exact (sound.recordBridgeFailure error.toText).stopOutbound
      (.inr (.inl (failures_recordBridgeFailure _ _)))

/-- TLS reads from its pipe, and nothing that was put there changes. -/
theorem Sound.tlsReads (sound : bridge.Sound) {limit : Nat} {chunk : Bytes}
    {toTls : Pipe UInt8 bridgeBytes}
    (polled : bridge.toTls.pollRead limit = .ready (chunk, toTls)) :
    Sound { bridge with toTls } := by
  obtain ⟨put, -, closed, -, -⟩ := Pipe.pollRead_ready polled
  exact {
    sent := sound.sent
    chunks := sound.chunks
    first := sound.first
    outboundStops := sound.outboundStops
    carries := by simpa [Carries, put] using sound.carries
    inboundStops := by simpa [Ended, put] using sound.inboundStops
    closed := by simpa [Ended, put, closed] using sound.closed }

/-- TLS writes to its pipe, which the outbound task has not left. -/
theorem Sound.tlsWrites (sound : bridge.Sound) {bytes : Bytes} {count : Nat}
    {fromTls : Pipe UInt8 bridgeBytes}
    (polled : bridge.fromTls.pollWrite bytes = .ready (some (count, fromTls))) :
    Sound { bridge with fromTls } := by
  obtain ⟨-, taken, wasOpen, -, -⟩ := Pipe.pollWrite_some polled
  exact {
    sent := sound.sent.trans taken.symm
    chunks := sound.chunks
    first := sound.first
    outboundStops := fun stopped => (sound.outboundStops stopped).imp_right fun either =>
      either.imp_right fun drained => by simp [wasOpen] at drained
    carries := sound.carries
    inboundStops := sound.inboundStops
    closed := sound.closed }

theorem Sound.closeFromTls (sound : bridge.Sound) :
    Sound { bridge with fromTls := bridge.fromTls.close } where
  sent := sound.sent
  chunks := sound.chunks
  first := sound.first
  outboundStops := fun stopped => (sound.outboundStops stopped).imp_right fun either =>
    either.imp_right fun drained => ⟨drained.1, rfl⟩
  carries := sound.carries
  inboundStops := sound.inboundStops
  closed := sound.closed

/-- What a bridge does by itself. -/
inductive Moves (bridge : Bridge) : Bridge → Prop where
  | received (receiving : bridge.inbound = .receiving)
      (result : Except CoreError NativeTransportRead) : Moves bridge (bridge.received result)
  | writes {rest : Bytes} {endOfStream : Bool} {after : Bridge}
      (writing : bridge.inbound = .writing rest endOfStream)
      (wrote : bridge.writes rest endOfStream = some after) : Moves bridge after
  | reads {after : Bridge} (reading : bridge.outbound = .reading)
      (read : bridge.reads = some after) : Moves bridge after
  | sends {chunk : Bytes} (sending : bridge.outbound = .sending chunk)
      (result : Except CoreError Unit) : Moves bridge (bridge.sends result)
  | tlsReads {limit : Nat} {chunk : Bytes} {toTls : Pipe UInt8 bridgeBytes}
      (opened : bridge.tlsOpen = true)
      (polled : bridge.toTls.pollRead limit = .ready (chunk, toTls)) :
      Moves bridge { bridge with toTls }
  /-- TLS wrote into a pipe whose reader is gone. -/
  | tlsRefused {bytes : Bytes} (opened : bridge.tlsOpen = true)
      (polled : bridge.fromTls.pollWrite bytes = .ready none) : Moves bridge bridge
  | tlsWrites {bytes : Bytes} {count : Nat} {fromTls : Pipe UInt8 bridgeBytes}
      (opened : bridge.tlsOpen = true)
      (polled : bridge.fromTls.pollWrite bytes = .ready (some (count, fromTls))) :
      Moves bridge { bridge with fromTls }
  | tlsShutsDown (opened : bridge.tlsOpen = true) :
      Moves bridge { bridge with fromTls := bridge.fromTls.close }
  | inboundGone (aborted : bridge.aborted = true) : Moves bridge bridge.stopInbound
  | outboundGone (aborted : bridge.aborted = true) : Moves bridge bridge.stopOutbound

theorem moves_of_step {event : Event} (steps : bridge.step event = some next) :
    bridge.Moves next := by
  cases event with
  | received result =>
    cases receiving : bridge.inbound <;>
      simp only [Bridge.step, receiving, reduceCtorEq, Option.some.injEq] at steps
    exact steps ▸ .received receiving result
  | inboundWrites =>
    cases writing : bridge.inbound <;> simp only [Bridge.step, writing, reduceCtorEq] at steps
    exact .writes writing steps
  | outboundReads =>
    cases reading : bridge.outbound <;> simp only [Bridge.step, reading, reduceCtorEq] at steps
    exact .reads reading steps
  | sends result =>
    cases sending : bridge.outbound <;>
      simp only [Bridge.step, sending, reduceCtorEq, Option.some.injEq] at steps
    exact steps ▸ .sends sending result
  | tlsReads limit =>
    by_cases opened : bridge.tlsOpen = true
    · cases polled : bridge.toTls.pollRead limit with
      | pending => simp [Bridge.step, opened, polled] at steps
      | ready outcome =>
        simp only [Bridge.step, if_pos opened, polled, Option.some.injEq] at steps
        exact steps ▸ .tlsReads opened polled
    · simp [Bridge.step, opened] at steps
  | tlsWrites bytes =>
    by_cases opened : bridge.tlsOpen = true
    · cases polled : bridge.fromTls.pollWrite bytes with
      | pending => simp [Bridge.step, opened, polled] at steps
      | ready outcome =>
        cases outcome <;>
          simp only [Bridge.step, if_pos opened, polled, Option.some.injEq] at steps
        · exact steps ▸ .tlsRefused opened polled
        · exact steps ▸ .tlsWrites opened polled
    · simp [Bridge.step, opened] at steps
  | tlsShutsDown =>
    by_cases opened : bridge.tlsOpen = true
    · simp only [Bridge.step, if_pos opened, Option.some.injEq] at steps
      exact steps ▸ .tlsShutsDown opened
    · simp [Bridge.step, opened] at steps
  | inboundGone =>
    by_cases aborted : bridge.aborted = true
    · simp only [Bridge.step, if_pos aborted, Option.some.injEq] at steps
      exact steps ▸ .inboundGone aborted
    · simp [Bridge.step, aborted] at steps
  | outboundGone =>
    by_cases aborted : bridge.aborted = true
    · simp only [Bridge.step, if_pos aborted, Option.some.injEq] at steps
      exact steps ▸ .outboundGone aborted
    · simp [Bridge.step, aborted] at steps

theorem Sound.step (sound : bridge.Sound) {event : Event} (steps : bridge.step event = some next) :
    next.Sound := by
  cases moves_of_step steps with
  | received receiving result => exact sound.received receiving result
  | writes writing wrote => exact sound.writes writing wrote
  | reads reading read => exact sound.reads reading read
  | sends sending result => exact sound.sends sending result
  | tlsReads _ polled => exact sound.tlsReads polled
  | tlsRefused => exact sound
  | tlsWrites _ polled => exact sound.tlsWrites polled
  | tlsShutsDown => exact sound.closeFromTls
  | inboundGone aborted => exact sound.stopInbound (.inl aborted)
  | outboundGone aborted => exact sound.stopOutbound (.inl aborted)

theorem sound_start : start.Sound where
  sent := rfl
  chunks := by simp [start]
  first := rfl
  outboundStops := by simp [start]
  carries := ⟨rfl, by simp [start]⟩
  inboundStops := by simp [start]
  closed := by simp [start]

theorem Sound.dropTls (sound : bridge.Sound) : bridge.dropTls.Sound where
  sent := sound.sent
  chunks := sound.chunks
  first := sound.first
  outboundStops := fun stopped => (sound.outboundStops stopped).imp_right fun either =>
    either.imp_right fun drained => ⟨drained.1, rfl⟩
  carries := sound.carries
  inboundStops := sound.inboundStops
  closed := fun _ => .inl rfl

theorem Sound.abort (sound : bridge.Sound) : bridge.abort.Sound where
  sent := sound.sent
  chunks := sound.chunks
  first := sound.first
  outboundStops := fun _ => .inl rfl
  carries := sound.carries
  inboundStops := fun _ => .inl rfl
  closed := sound.closed

/-! ## Failures and aborts -/

/-- No failure is forgotten, and whether the tasks were aborted is not for the bridge to say. -/
def Keeps (bridge next : Bridge) : Prop :=
  bridge.failures <+: next.failures ∧ next.aborted = bridge.aborted

theorem keeps_refl (bridge : Bridge) : bridge.Keeps bridge := ⟨List.prefix_refl _, rfl⟩

theorem keeps_dropPlatformEnd (bridge : Bridge) : bridge.Keeps bridge.dropPlatformEnd := by
  obtain same | ⟨-, -, closes⟩ := dropPlatformEnd_cases bridge
  · rw [same]
    exact keeps_refl bridge
  · rw [closes]
    exact keeps_refl bridge

theorem keeps_stopInbound (bridge : Bridge) : bridge.Keeps bridge.stopInbound :=
  keeps_dropPlatformEnd { bridge with inbound := .stopped }

theorem keeps_stopOutbound (bridge : Bridge) : bridge.Keeps bridge.stopOutbound :=
  keeps_dropPlatformEnd { bridge with outbound := .stopped }

/-- A task that stops for a failure adds it to the record. -/
theorem keeps_failure (bridge : Bridge) {stop : Bridge → Bridge}
    (stops : ∀ bridge, Keeps bridge (stop bridge)) (error : String) :
    bridge.Keeps (stop (bridge.recordBridgeFailure error)) := by
  obtain ⟨failures, aborted⟩ := stops (bridge.recordBridgeFailure error)
  exact ⟨(List.prefix_append _ _).trans failures, aborted⟩

theorem keeps_received (bridge : Bridge) (result : Except CoreError NativeTransportRead) :
    bridge.Keeps (bridge.received result) := by
  cases result with
  | error error => exact keeps_failure bridge keeps_stopInbound _
  | ok read =>
    simp only [Bridge.received]
    by_cases long : read.bytes.length > ioChunkBytes
    · rw [if_pos long]
      exact keeps_failure { bridge with delivered := bridge.delivered ++ [read] }
        keeps_stopInbound _
    · rw [if_neg long]
      by_cases nothing : read.bytes = [] ∧ read.endOfStream = false
      · rw [if_pos nothing]
        exact keeps_failure { bridge with delivered := bridge.delivered ++ [read] }
          keeps_stopInbound _
      · rw [if_neg nothing]
        exact keeps_refl bridge

theorem keeps_writes {rest : Bytes} {endOfStream : Bool}
    (wrote : bridge.writes rest endOfStream = some next) :
    bridge.Keeps next := by
  cases rest with
  | nil =>
    cases endOfStream <;> simp only [Bridge.writes, Option.some.injEq] at wrote <;> subst wrote
    · exact keeps_refl bridge
    · exact keeps_stopInbound { bridge with toTls := bridge.toTls.close }
  | cons first rest =>
    simp only [Bridge.writes] at wrote
    cases polled : bridge.toTls.pollWrite (first :: rest) with
    | pending => simp [polled] at wrote
    | ready outcome =>
      cases outcome <;> simp only [polled, Option.some.injEq] at wrote <;> subst wrote
      · exact keeps_failure bridge keeps_stopInbound _
      · exact keeps_refl bridge

theorem keeps_reads (read : bridge.reads = some next) : bridge.Keeps next := by
  unfold Bridge.reads at read
  cases polled : bridge.fromTls.pollRead ioChunkBytes with
  | pending => simp [polled] at read
  | ready outcome =>
    obtain ⟨chunk, fromTls⟩ := outcome
    cases chunk <;> simp only [polled, Option.some.injEq] at read <;> subst read
    · exact keeps_stopOutbound { bridge with fromTls }
    · exact keeps_refl bridge

theorem keeps_sends (bridge : Bridge) (result : Except CoreError Unit) :
    bridge.Keeps (bridge.sends result) := by
  cases result with
  | ok => exact keeps_refl bridge
  | error error => exact keeps_failure bridge keeps_stopOutbound _

theorem keeps_step {event : Event} (steps : bridge.step event = some next) : bridge.Keeps next := by
  cases moves_of_step steps with
  | received receiving result => exact keeps_received bridge result
  | writes writing wrote => exact keeps_writes wrote
  | reads reading read => exact keeps_reads read
  | sends sending result => exact keeps_sends bridge result
  | tlsReads | tlsRefused | tlsWrites | tlsShutsDown => exact keeps_refl bridge
  | inboundGone => exact keeps_stopInbound bridge
  | outboundGone => exact keeps_stopOutbound bridge

end Bridge

/-! ## What the connection keeps -/

namespace Endpoint

variable {endpoint next : Endpoint}

/-- Whether the close of the platform was called, by where the endpoint stands; an abandoned
`connect` may have come that far. -/
def Owes (closes : Nat) : Phase → Prop
  | .connecting | .failing _ | .timedOut _ => closes = 0
  | .refusing _ _ | .refused _ _ => closes = 1
  | .abandoned => closes ≤ 1
  | .connected holding call =>
    closes = (if holding then 0 else 1) ∧ ∀ kind shutdown, call = .closing kind shutdown →
      holding = false
  | .dropped holding => closes = if holding then 0 else 1

structure Sound (endpoint : Endpoint) : Prop where
  bridge : endpoint.bridge.Sound
  owes : Owes endpoint.closes endpoint.phase
  aborted : endpoint.bridge.aborted = true ↔ endpoint.closes = 1
  returned : endpoint.returned ≠ [] → endpoint.closes = 1

theorem sound_start : start.Sound where
  bridge := Bridge.sound_start
  owes := rfl
  aborted := by simp [start, Bridge.start]
  returned := by simp [start]

theorem Sound.bridgeStep (sound : endpoint.Sound) {event : Bridge.Event} {bridge : Bridge}
    (steps : endpoint.bridge.step event = some bridge) : Sound { endpoint with bridge } where
  bridge := sound.bridge.step steps
  owes := sound.owes
  aborted := by
    show bridge.aborted = true ↔ _
    rw [(Bridge.keeps_step steps).2]
    exact sound.aborted
  returned := sound.returned

/-- Only `phase` changes, and what is owed there is what was owed before. -/
theorem Sound.turn (sound : endpoint.Sound) {phase : Phase} (owes : Owes endpoint.closes phase) :
    Sound { endpoint with phase } where
  bridge := sound.bridge
  owes := owes
  aborted := sound.aborted
  returned := sound.returned

/-- The TLS end is dropped with whoever had it. -/
theorem Sound.dropTls (sound : endpoint.Sound) :
    Sound { endpoint with bridge := endpoint.bridge.dropTls } where
  bridge := sound.bridge.dropTls
  owes := sound.owes
  aborted := sound.aborted
  returned := sound.returned

theorem Sound.closeBridge (sound : endpoint.Sound) (notYet : endpoint.closes = 0) {phase : Phase}
    (owes : Owes 1 phase) : (endpoint.closeBridge phase).Sound where
  bridge := sound.bridge.abort
  owes := by
    show Owes (endpoint.closes + 1) phase
    rw [notYet]
    exact owes
  aborted := by simp [Endpoint.closeBridge, Bridge.abort, notYet]
  returned := fun _ => by simp [Endpoint.closeBridge, notYet]

theorem Sound.takeBridge (sound : endpoint.Sound) {holding : Bool} {call : Call}
    (connected : endpoint.phase = .connected holding call) (kind : CloseCall)
    (shutdown : Except CoreError Unit) :
    (endpoint.takeBridge holding kind shutdown).Sound := by
  have owes := sound.owes
  rw [connected] at owes
  cases holding with
  | true => exact sound.closeBridge owes.1 ⟨rfl, fun _ _ _ => rfl⟩
  | false =>
    have closed : endpoint.closes = 1 := owes.1
    exact {
      bridge := sound.bridge
      owes := ⟨closed, fun _ _ _ => rfl⟩
      aborted := sound.aborted
      returned := fun _ => closed }

/-- What an event does to an endpoint that stands where the event can happen. -/
inductive Moves (endpoint : Endpoint) : Endpoint → Prop where
  | bridge {event : Bridge.Event} {bridge : Bridge}
      (moved : endpoint.bridge.step event = some bridge) : Moves endpoint { endpoint with bridge }
  | connects (phase : endpoint.phase = .connecting) :
      Moves endpoint { endpoint with phase := .connected true .none }
  /-- The handshake ends in an error or a cancellation. -/
  | fails {error : CoreError} (phase : endpoint.phase = .connecting) :
      Moves endpoint { endpoint with bridge := endpoint.bridge.dropTls, phase := .failing error }
  | timesOut {error : CoreError} (phase : endpoint.phase = .connecting) :
      Moves endpoint { endpoint with bridge := endpoint.bridge.dropTls, phase := .timedOut error }
  | closesBridge {cause : CoreError} (phase : endpoint.phase = .failing cause) :
      Moves endpoint (endpoint.closeBridge
        (.refusing cause ((endpoint.bridge.failure.map .transport).getD cause)))
  | refuses {cause error : CoreError} (phase : endpoint.phase = .refusing cause error) :
      Moves endpoint { endpoint with phase := .refused cause error }
  /-- A call goes on to something that closes nothing. -/
  | turns {holding : Bool} {call after : Call} (phase : endpoint.phase = .connected holding call)
      (calm : ∀ kind shutdown, after ≠ .closing kind shutdown) :
      Moves endpoint { endpoint with phase := .connected holding after }
  | takesBridge {holding : Bool} {call : Call} (phase : endpoint.phase = .connected holding call)
      (kind : CloseCall) (shutdown : Except CoreError Unit) :
      Moves endpoint (endpoint.takeBridge holding kind shutdown)
  | returns {holding : Bool} {kind : CloseCall} {shutdown result : Except CoreError Unit}
      (phase : endpoint.phase = .connected holding (.closing kind shutdown)) :
      Moves endpoint { endpoint with
        phase := .connected holding .none, returned := endpoint.returned ++ [(kind, result)] }
  | abandons (before : endpoint.phase = .connecting ∨ (∃ cause, endpoint.phase = .failing cause) ∨
        ∃ cause error, endpoint.phase = .refusing cause error) :
      Moves endpoint { endpoint with bridge := endpoint.bridge.dropTls, phase := .abandoned }
  | drops {holding : Bool} {call : Call} (phase : endpoint.phase = .connected holding call) :
      Moves endpoint { endpoint with bridge := endpoint.bridge.dropTls, phase := .dropped holding }

theorem moves_of_step {event : Event} (steps : endpoint.step event = some next) :
    endpoint.Moves next := by
  cases event with
  | bridge event =>
    obtain ⟨bridge, moved, rfl⟩ := Option.map_eq_some_iff.mp steps
    exact .bridge moved
  | handshake result =>
    cases phase : endpoint.phase <;> cases result <;>
      simp only [Endpoint.step, phase, reduceCtorEq, Option.some.injEq] at steps
    · exact steps ▸ .fails phase
    · exact steps ▸ .connects phase
  | handshakeTimesOut =>
    cases phase : endpoint.phase <;>
      simp only [Endpoint.step, phase, reduceCtorEq, Option.some.injEq] at steps
    exact steps ▸ .timesOut phase
  | cancelled =>
    cases phase : endpoint.phase <;>
      simp only [Endpoint.step, phase, reduceCtorEq, Option.some.injEq] at steps
    exact steps ▸ .fails phase
  | closesBridge =>
    cases phase : endpoint.phase <;>
      simp only [Endpoint.step, phase, reduceCtorEq, Option.some.injEq] at steps
    exact steps ▸ .closesBridge phase
  | platformCloses outcome =>
    cases phase : endpoint.phase with
    | refusing cause error =>
      simp only [Endpoint.step, phase, Option.some.injEq] at steps
      exact steps ▸ .refuses phase
    | connected holding call =>
      cases call <;> simp only [Endpoint.step, phase, reduceCtorEq, Option.some.injEq] at steps
      exact steps ▸ .returns phase
    | connecting | failing | refused | timedOut | abandoned | dropped =>
      simp [Endpoint.step, phase] at steps
  | called kind =>
    cases phase : endpoint.phase with
    | connected holding call =>
      cases call <;> simp only [Endpoint.step, phase, reduceCtorEq, Option.some.injEq] at steps
      exact steps ▸ .turns phase (by simp)
    | connecting | failing | refusing | refused | timedOut | abandoned | dropped =>
      simp [Endpoint.step, phase] at steps
  | shutdownEnds outcome =>
    cases phase : endpoint.phase with
    | connected holding call =>
      cases call with
      | shuttingDown kind =>
        cases kind <;> simp only [Endpoint.step, phase, Option.some.injEq] at steps
        · exact steps ▸ .takesBridge phase _ _
        · exact steps ▸ .turns phase (by simp)
      | none | readingPeer | closing => simp [Endpoint.step, phase] at steps
    | connecting | failing | refusing | refused | timedOut | abandoned | dropped =>
      simp [Endpoint.step, phase] at steps
  | peerReadEnds =>
    cases phase : endpoint.phase with
    | connected holding call =>
      cases call <;> simp only [Endpoint.step, phase, reduceCtorEq, Option.some.injEq] at steps
      exact steps ▸ .takesBridge phase _ _
    | connecting | failing | refusing | refused | timedOut | abandoned | dropped =>
      simp [Endpoint.step, phase] at steps
  | callDropped =>
    cases phase : endpoint.phase <;>
      simp only [Endpoint.step, phase, reduceCtorEq, Option.some.injEq] at steps
    exact steps ▸ .turns phase (by simp)
  | connectDropped =>
    cases phase : endpoint.phase <;>
      simp only [Endpoint.step, phase, reduceCtorEq, Option.some.injEq] at steps
    · exact steps ▸ .abandons (.inl phase)
    · exact steps ▸ .abandons (.inr (.inl ⟨_, phase⟩))
    · exact steps ▸ .abandons (.inr (.inr ⟨_, _, phase⟩))
  | connectionDropped =>
    cases phase : endpoint.phase <;>
      simp only [Endpoint.step, phase, reduceCtorEq, Option.some.injEq] at steps
    exact steps ▸ .drops phase

theorem Sound.step (sound : endpoint.Sound) {event : Event}
    (steps : endpoint.step event = some next) : next.Sound := by
  have owes := sound.owes
  cases moves_of_step steps with
  | bridge moved => exact sound.bridgeStep moved
  | connects phase =>
    rw [phase] at owes
    exact sound.turn ⟨owes, by simp⟩
  | fails phase =>
    rw [phase] at owes
    exact sound.dropTls.turn owes
  | timesOut phase =>
    rw [phase] at owes
    exact sound.dropTls.turn owes
  | closesBridge phase =>
    rw [phase] at owes
    exact sound.closeBridge owes rfl
  | refuses phase =>
    rw [phase] at owes
    exact sound.turn owes
  | turns phase calm =>
    rw [phase] at owes
    exact sound.turn ⟨owes.1, fun kind shutdown same => absurd same (calm kind shutdown)⟩
  | takesBridge phase kind shutdown => exact sound.takeBridge phase kind shutdown
  | returns phase =>
    rw [phase] at owes
    -- a call that closes has taken the bridge
    have released := owes.2 _ _ rfl
    subst released
    have closed : endpoint.closes = 1 := owes.1
    exact {
      bridge := sound.bridge
      owes := ⟨closed, fun _ _ _ => rfl⟩
      aborted := sound.aborted
      returned := fun _ => closed }
  | abandons before =>
    have once : endpoint.closes ≤ 1 := by
      obtain phase | ⟨_, phase⟩ | ⟨_, _, phase⟩ := before <;> rw [phase] at owes
      · exact (Nat.le_of_eq owes).trans (Nat.zero_le 1)
      · exact (Nat.le_of_eq owes).trans (Nat.zero_le 1)
      · exact Nat.le_of_eq owes
    exact sound.dropTls.turn once
  | drops phase =>
    rw [phase] at owes
    exact sound.dropTls.turn owes.1

/-- Some events take the first endpoint to the second. -/
def Reaches : Endpoint → Endpoint → Prop :=
  Relation.ReflTransGen fun endpoint next => ∃ event, endpoint.step event = some next

theorem Reaches.sound {endpoint : Endpoint} (run : Reaches start endpoint) : endpoint.Sound := by
  induction run with
  | refl => exact sound_start
  | tail _ last ih =>
    obtain ⟨event, steps⟩ := last
    exact ih.step steps

/-- After the time limit of the handshake nothing but the bridge moves. -/
theorem timedOut_step {error : CoreError} {event : Event} (late : endpoint.phase = .timedOut error)
    (steps : endpoint.step event = some next) : next.phase = .timedOut error := by
  cases moves_of_step steps with
  | bridge => exact late
  | connects phase | fails phase | timesOut phase | closesBridge phase | refuses phase
  | turns phase | takesBridge phase | returns phase | drops phase =>
    cases late.symm.trans phase
  | abandons before => simp [late] at before

theorem timedOut_run {error : CoreError} {later : Endpoint}
    (phase : endpoint.phase = .timedOut error) (run : Reaches endpoint later) :
    later.phase = .timedOut error := by
  induction run with
  | refl => exact phase
  | tail _ last ih =>
    obtain ⟨event, steps⟩ := last
    exact timedOut_step ih steps

/-- Only the bridge records failures, and it forgets none. -/
theorem failures_step {event : Event} (steps : endpoint.step event = some next) :
    endpoint.bridge.failures <+: next.bridge.failures := by
  cases moves_of_step steps with
  | bridge moved => exact (Bridge.keeps_step moved).1
  | @takesBridge holding => cases holding <;> exact List.prefix_refl _
  | connects | fails | timesOut | closesBridge | refuses | turns | returns | abandons | drops =>
    exact List.prefix_refl _

theorem failures_run {later : Endpoint} (run : Reaches endpoint later) :
    endpoint.bridge.failures <+: later.bridge.failures := by
  induction run with
  | refl => exact List.prefix_refl _
  | tail _ last ih =>
    obtain ⟨event, steps⟩ := last
    exact ih.trans (failures_step steps)

/-- `connect` is past the decision what it returns. -/
def Refuses (endpoint : Endpoint) (cause error : CoreError) : Prop :=
  endpoint.phase = .refusing cause error ∨ endpoint.phase = .refused cause error

/-- What `connect` returns is decided where it closes the bridge, and stays. -/
theorem Refuses.of_step {cause error : CoreError} {event : Event}
    (refuses : next.Refuses cause error) (steps : endpoint.step event = some next) :
    endpoint.Refuses cause error ∨ endpoint.step .closesBridge = some next ∧
      endpoint.phase = .failing cause ∧
      error = (endpoint.bridge.failure.map .transport).getD cause := by
  cases moves_of_step steps with
  | bridge => exact .inl refuses
  | closesBridge phase =>
    obtain refusing | refused := refuses
    · simp only [Endpoint.closeBridge, Phase.refusing.injEq] at refusing
      obtain ⟨rfl, rfl⟩ := refusing
      exact .inr ⟨by simp only [Endpoint.step, phase], phase, rfl⟩
    · simp [Endpoint.closeBridge] at refused
  | refuses phase =>
    obtain refusing | refused := refuses
    · simp at refusing
    · simp only [Phase.refused.injEq] at refused
      obtain ⟨rfl, rfl⟩ := refused
      exact .inl (.inl phase)
  | @takesBridge holding =>
    cases holding <;> simp [Refuses, Endpoint.takeBridge, Endpoint.closeBridge] at refuses
  | connects | fails | timesOut | turns | returns | abandons | drops => simp [Refuses] at refuses

/-- A `connect` that refuses has come past the close of the bridge, with a failure that was recorded
by then before its own. -/
theorem refused_at_close {cause error : CoreError} (run : Reaches .start endpoint)
    (refuses : endpoint.Refuses cause error) :
    ∃ closing closed, Reaches .start closing ∧ closing.phase = .failing cause ∧
      closing.step .closesBridge = some closed ∧ Reaches closed endpoint ∧
      error = (closing.bridge.failures.head?.map .transport).getD cause := by
  induction run with
  | refl => simp [Refuses, start] at refuses
  | tail before last ih =>
    obtain ⟨event, steps⟩ := last
    -- The run is cut at the step that closed the bridge: all before it was still undecided.
    obtain earlier | ⟨closes, failing, decided⟩ := refuses.of_step steps
    · obtain ⟨closing, closed, run, failing, closes, later, decided⟩ := ih earlier
      exact ⟨closing, closed, run, failing, closes, later.tail ⟨event, steps⟩, decided⟩
    · refine ⟨_, _, before, failing, closes, .refl, ?_⟩
      rw [← (Reaches.sound before).bridge.first]
      exact decided

end Endpoint

open Endpoint (Reaches)

/-- The platform is closed and both tasks are aborted once, whatever calls end the connection: when
`connect` refuses, and when a call on the connection has returned.  The error of a `connect` that
refuses is the failure that was recorded first when it closed the bridge, and the handshake's own
only where none was.  A handshake that runs into its time limit is the exception: `connect` returns
past the close, and nothing closes the platform or aborts the tasks later. -/
theorem connection_released {endpoint : Endpoint} (run : Reaches .start endpoint) :
    endpoint.closes ≤ 1 ∧ (endpoint.bridge.aborted = true ↔ endpoint.closes = 1) ∧
      (∀ cause error, endpoint.phase = .refused cause error → endpoint.closes = 1 ∧
        ∃ closing closed, Reaches .start closing ∧ closing.phase = .failing cause ∧
          closing.step .closesBridge = some closed ∧ Reaches closed endpoint ∧
          closing.bridge.failures <+: endpoint.bridge.failures ∧
          (∀ failure, closing.bridge.failures.head? = some failure → error = .transport failure) ∧
          (closing.bridge.failures = [] → error = cause)) ∧
      (∀ holding call, endpoint.phase = .connected holding call →
        (endpoint.closes = 1 ↔ holding = false)) ∧
      (endpoint.returned ≠ [] → endpoint.closes = 1) ∧
      ∀ error, endpoint.phase = .timedOut error → ∀ later, Reaches endpoint later →
        later.phase = .timedOut error ∧ later.closes = 0 ∧ later.bridge.aborted = false := by
  have sound := run.sound
  have owes := sound.owes
  refine ⟨?_, sound.aborted, ?_, ?_, sound.returned, ?_⟩
  · cases phase : endpoint.phase with
    | connecting | failing | timedOut =>
      rw [phase] at owes
      exact (Nat.le_of_eq owes).trans (Nat.zero_le 1)
    | refusing | refused =>
      rw [phase] at owes
      exact Nat.le_of_eq owes
    | abandoned =>
      rw [phase] at owes
      exact owes
    | connected holding call =>
      rw [phase] at owes
      have counted := owes.1
      split at counted <;> omega
    | dropped holding =>
      rw [phase] at owes
      have counted : endpoint.closes = if holding then 0 else 1 := owes
      split at counted <;> omega
  · intro cause error phase
    rw [phase] at owes
    obtain ⟨closing, closed, before, failing, closes, after, decided⟩ :=
      Endpoint.refused_at_close run (.inr phase)
    refine ⟨owes, closing, closed, before, failing, closes, after, ?_, fun failure first => ?_,
      fun none => ?_⟩
    · exact (Endpoint.failures_step closes).trans (Endpoint.failures_run after)
    · rw [decided, first]
      rfl
    · rw [decided, none]
      rfl
  · intro holding call phase
    rw [phase] at owes
    have counted := owes.1
    cases holding <;> simp [counted]
  · intro error phase later more
    -- Nothing leaves the phase, and in this phase nothing was closed.
    have phaseLater := Endpoint.timedOut_run phase more
    have soundLater := Endpoint.Reaches.sound (run.trans more)
    have owesLater := soundLater.owes
    rw [phaseLater] at owesLater
    have none : later.closes = 0 := owesLater
    refine ⟨phaseLater, none, ?_⟩
    rw [← Bool.not_eq_true, soundLater.aborted, none]
    simp

/-- The endpoint after some events, if they can happen. -/
def Endpoint.run (endpoint : Endpoint) (events : List Endpoint.Event) : Option Endpoint :=
  events.foldlM Endpoint.step endpoint

theorem Endpoint.reaches_run {endpoint later : Endpoint} (events : List Endpoint.Event)
    (ran : endpoint.run events = some later) : Reaches endpoint later := by
  induction events generalizing endpoint with
  | nil =>
    cases ran
    exact .refl
  | cons event events ih =>
    obtain ⟨next, steps, rest⟩ := Option.bind_eq_some_iff.mp ran
    exact .head ⟨event, steps⟩ (ih rest)

/-- The platform fails to receive, the handshake breaks off, and `connect` reports the platform's
failure. -/
def refusedRun : List Endpoint.Event :=
  [.bridge (.received (.error (.transport "link lost"))),
    .handshake (.error (.transport "unexpected end of file")), .closesBridge,
    .platformCloses (some (.ok ()))]

theorem connection_released_refused : ∃ endpoint, Endpoint.start.run refusedRun = some endpoint ∧
    endpoint.closes = 1 ∧ endpoint.phase = .refused (.transport "unexpected end of file")
      (.transport "transport error: link lost") :=
  ⟨_, rfl, ((connection_released (Endpoint.reaches_run refusedRun rfl)).2.2.1 _ _ rfl).1, rfl⟩

/-- What TLS reads on one side is what TLS wrote on the other, as far as the platform has carried
it. -/
theorem transport_faithful {left right : Endpoint} (leftRun : Reaches .start left)
    (rightRun : Reaches .start right) :
    (bytesOf right.bridge.delivered <+: left.bridge.sent.flatten →
      right.bridge.toTls.taken <+: left.bridge.fromTls.put) ∧
    left.bridge.toTls.put <+: bytesOf (left.bridge.delivered.filter fun read => Acceptable read) ∧
    left.bridge.toTls.put <+: bytesOf left.bridge.delivered ∧
    left.bridge.sent.flatten <+: left.bridge.fromTls.put ∧
    (∀ chunk ∈ left.bridge.sent, chunk ≠ [] ∧ chunk.length ≤ ioChunkBytes) ∧
    left.bridge.failure = left.bridge.failures.head? ∧
    (∀ limit rest, 0 < limit → left.bridge.tlsOpen = true →
      left.bridge.toTls.pollRead limit = .ready ([], rest) →
      left.bridge.aborted = true ∨ left.bridge.failure ≠ none ∨
        left.bridge.toTls.taken = bytesOf left.bridge.delivered ∧
        ReportedEnd left.bridge.delivered) ∧
    (left.bridge.outbound = .stopped → left.bridge.aborted = true ∨ left.bridge.failure ≠ none ∨
      left.bridge.sent.flatten = left.bridge.fromTls.put ∧ left.bridge.fromTls.closed = true) ∧
    (left.bridge.outbound ≠ .stopped → left.bridge.tlsOpen = true →
      left.bridge.toTls.closed = true →
      left.bridge.toTls.put = bytesOf left.bridge.delivered ∧
        ReportedEnd left.bridge.delivered) := by
  have soundLeft := leftRun.sound.bridge
  have soundRight := rightRun.sound.bridge
  have passed := soundLeft.carries.prefix
  have handed : left.bridge.sent.flatten <+: left.bridge.fromTls.put := by
    rw [soundLeft.sent]
    exact left.bridge.fromTls.taken_prefix_put
  have reported (failed : left.bridge.failures ≠ []) : left.bridge.failure ≠ none := by
    rw [soundLeft.first]
    simpa using failed
  refine ⟨fun carried => ?_, passed.1, passed.1.trans (bytesOf_mono passed.2), handed,
    soundLeft.chunks, soundLeft.first, fun limit rest positive opened ended => ?_,
      fun stopped => ?_, fun running opened closed => ?_⟩
  -- taken by TLS, put by the bridge, delivered, sent and handed over: each is a prefix of the next
  · have read := right.bridge.toTls.taken_prefix_put
    have written := soundRight.carries.prefix
    exact (read.trans (written.1.trans (bytesOf_mono written.2))).trans (carried.trans handed)
  · obtain ⟨-, -, -, -, drained⟩ := Pipe.pollRead_ready ended
    obtain ⟨empty, closed, -⟩ := drained positive rfl
    have whole (ended : left.bridge.Ended) :
        left.bridge.toTls.taken = bytesOf left.bridge.delivered ∧
            ReportedEnd left.bridge.delivered := by
      rw [← Pipe.put_eq_taken empty]
      exact ended.2
    -- The pipe to TLS closes with its reader, after a reported end, or where the task stopped.
    obtain dropped | complete | ⟨stopped, -⟩ := soundLeft.closed closed
    · simp [opened] at dropped
    · exact .inr (.inr (whole complete))
    · exact (soundLeft.inboundStops stopped).imp_right fun either => either.imp reported whole
  · refine (soundLeft.outboundStops stopped).imp_right fun either =>
      either.imp reported fun drained => ⟨?_, drained.2⟩
    rw [soundLeft.sent, Pipe.put_eq_taken drained.1]
  · obtain dropped | complete | ⟨-, outbound⟩ := soundLeft.closed closed
    · simp [opened] at dropped
    · exact complete.2
    · exact absurd outbound running

/-- Three bytes that TLS writes, the outbound task hands to the platform, and the platform is asked
to send. -/
def sendingRun : List Endpoint.Event := [.bridge (.tlsWrites [1, 2, 3]), .bridge .outboundReads]

/-- Two of them have been delivered on the other side, and TLS reads one. -/
def receivingRun : List Endpoint.Event :=
  [.bridge (.received (.ok ⟨[1, 2], false⟩)), .bridge .inboundWrites, .bridge (.tlsReads 1)]

theorem transport_faithful_byte : ∃ left right, Endpoint.start.run sendingRun = some left ∧
    Endpoint.start.run receivingRun = some right ∧ right.bridge.toTls.taken = [1] ∧
    right.bridge.toTls.taken <+: left.bridge.fromTls.put :=
  ⟨_, _, rfl, rfl, rfl, (transport_faithful (Endpoint.reaches_run sendingRun rfl)
    (Endpoint.reaches_run receivingRun rfl)).1 ⟨[3], rfl⟩⟩

end Envoix.Session.NativeTransport
