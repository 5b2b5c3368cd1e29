import Envoix.Foundation.SocketAddress
import Envoix.Foundation.Text
import Envoix.Rendezvous.Broker

/-! # Room logs

`RoomLogs` of `envoix-rendezvous-server/src/logs.rs`: the logs that peers upload and the lines the
server captures, one room at a time.  Anyone may upload; what is proved is that the store stays
within its caps, and that a view shows of each side the latest upload since the room was last
idle. -/

namespace Envoix.Rendezvous

open Text SocketAddress

/-! ## The store -/

namespace RoomLogs

def maxRdzLines : Nat := 2000
def maxRoomKey : Nat := 64
def maxRooms : Nat := 1024
def maxClientsPerRoom : Nat := 4
def maxClientBytes : Nat := 256 * 1024 * 1024

/-- `str::len` -/
def byteLen (text : List Char) : Nat := (utf8 text).length

structure RoomEntry where
  updated : Option Instant
  rdz : List (UInt64 × List Char)
  clients : List (List Char × List Char)
deriving DecidableEq

def RoomEntry.default : RoomEntry := ⟨none, [], []⟩

abbrev Rooms := Table (List Char) RoomEntry

end RoomLogs

structure RoomLogs where
  ttl : Duration
  rooms : RoomLogs.Rooms

namespace RoomLogs

def new (ttl : Duration) : RoomLogs := ⟨ttl, .empty⟩

/-- Updated less than the ttl ago. -/
def RoomEntry.fresh (ttl : Duration) (now : Instant) (entry : RoomEntry) : Bool :=
  entry.updated.any fun updated => now - updated < ttl

def evict (ttl : Duration) (now : Instant) (rooms : Rooms) : Rooms :=
  rooms.retain fun _ entry => entry.fresh ttl now

/-- `entry(room).or_default()` -/
def orDefault (rooms : Rooms) (room : List Char) : RoomEntry := (rooms.get? room).getD .default

/-- `now` is the clock of the eviction, `later` that of the update. -/
def pushRdz (room : List Char) (epochMs : UInt64) (line : List Char) (now later : Instant)
    (self : RoomLogs) : RoomLogs :=
  if byteLen room > maxRoomKey then self
  else
    let rooms := evict self.ttl now self.rooms
    if (rooms.get? room).isNone ∧ rooms.size ≥ maxRooms then { self with rooms }
    else
      let entry := orDefault rooms room
      let rdz := entry.rdz ++ [(epochMs, line)]
      let rdz := if rdz.length > maxRdzLines then rdz.drop (rdz.length - maxRdzLines) else rdz
      let entry := { entry with
        rdz := rdz
        updated := some later }
      { self with rooms := rooms.insert room entry }

/-- The bytes of a client's log; none where the side has none. -/
def replacedBytes (entry : RoomEntry) (side : List Char) : Nat :=
  ((entry.clients.find? fun client => client.1 = side).map fun client => byteLen client.2).getD 0

def RoomEntry.clientBytes (entry : RoomEntry) : Nat :=
  (entry.clients.map fun client => byteLen client.2).sum

def RoomEntry.hasSide (entry : RoomEntry) (side : List Char) : Bool :=
  entry.clients.any fun client => client.1 = side

/-- The entry with the log of the side replaced. -/
def RoomEntry.store (entry : RoomEntry) (side body : List Char) (later : Instant) : RoomEntry :=
  { entry with
    clients := entry.clients.filter (fun client => client.1 ≠ side) ++ [(side, body)]
    updated := some later }

def upload (room side body : List Char) (now later : Instant) (self : RoomLogs) : Bool × RoomLogs :=
  let rooms := evict self.ttl now self.rooms
  if (rooms.get? room).isNone ∧ rooms.size ≥ maxRooms then (false, { self with rooms })
  else
    let replaced := ((rooms.get? room).map fun entry => replacedBytes entry side).getD 0
    let stored := rooms.sum RoomEntry.clientBytes
    -- the lengths of what is in memory do not overflow the machine's size
    if stored - replaced + byteLen body > maxClientBytes then (false, { self with rooms })
    else
      let newSide := (rooms.get? room).all fun entry => !entry.hasSide side
      if newSide ∧ (rooms.get? room).any fun entry => entry.clients.length ≥ maxClientsPerRoom then
        (false, { self with rooms })
      else
        (true,
          { self with rooms := rooms.insert room ((orDefault rooms room).store side body later) })

/-! ## Views -/

def heading (title : List Char) : List Char := "═════ ".toList ++ title ++ " ═════\n".toList

def rdzLane (room : List Char) (rdz : List (UInt64 × List Char)) : List Char :=
  if rdz.isEmpty then []
  else heading ("rdz · room ".toList ++ room) ++ rdz.flatMap (fun row => row.2 ++ ['\n']) ++ ['\n']

def clientLane (client : List Char × List Char) : List Char :=
  heading client.1 ++ client.2 ++ (if client.2.getLast? = some '\n' then [] else ['\n']) ++ ['\n']

def view (room : List Char) (now : Instant) (self : RoomLogs) : Option (List Char) × RoomLogs :=
  let rooms := evict self.ttl now self.rooms
  ((rooms.get? room).map fun entry => rdzLane room entry.rdz ++ entry.clients.flatMap clientLane,
    { self with rooms })

def stripCr (line : List Char) : List Char :=
  if line.getLast? = some '\r' then line.dropLast else line

/-- `str::lines` -/
def lines (text : List Char) : List (List Char) :=
  let pieces := text.splitOn '\n'
  -- only a line that a line feed ends loses its carriage return
  pieces.dropLast.map stripCr ++ pieces.getLast?.toList.filter (· ≠ [])

def allDigits (text : List Char) : Bool := text ≠ [] ∧ text.all Char.isDigit

def timelineEpoch (line : List Char) : Option UInt64 :=
  match line.splitOn '\t' with
  | seq :: schema :: epoch :: _ =>
    if allDigits seq ∧ allDigits schema ∧ byteLen epoch = 13 ∧ allDigits epoch then
      some
        (UInt64.ofNat (epoch.foldl (fun value digit => 10 * value + (digit.toNat - '0'.toNat)) 0))
    else none
  | _ => none

/-- The rows of a merged view, before they are sorted. -/
def mergeRows (entry : RoomEntry) : List (UInt64 × List Char × List Char) :=
  entry.rdz.map (fun row => (row.1, "rdz".toList, row.2)) ++
    entry.clients.flatMap fun client =>
      (lines client.2).filterMap fun line => (timelineEpoch line).map fun epoch =>
        (epoch, client.1, line)

/-- `{side:<7}` -/
def padRight (width : Nat) (text : List Char) : List Char :=
  text ++ List.replicate (width - text.length) ' '

def mergeNotice : List Char :=
  ("(sender / receiver / broker clocks are independent — this interleave\n" ++
    "can imply a false causal order. The per-source lanes (default view)\n" ++
    "are authoritative. Columns: epoch_ms  [side]  line)\n\n").toList

def mergeLane (room : List Char) (rows : List (UInt64 × List Char × List Char)) : List Char :=
  heading ("time-merged · room ".toList ++ room ++ " · ⚠ SKEW-SENSITIVE".toList) ++ mergeNotice ++
    rows.flatMap fun (epoch, side, line) =>
      showDecimal epoch.toNat ++ "  [".toList ++ padRight 7 side ++ "]  ".toList ++ line ++ ['\n']

def mergeView (room : List Char) (now : Instant) (self : RoomLogs) :
    Option (List Char) × RoomLogs :=
  let rooms := evict self.ttl now self.rooms
  ((rooms.get? room).map fun entry =>
    mergeLane room ((mergeRows entry).mergeSort fun left right => left.1 ≤ right.1),
    { self with rooms })

example : timelineEpoch "12\t1\t1783875675799\t8045\t3\t\tprotocol\tcomplete_ack\tsent".toList =
    some 1783875675799 := by
  decide

/-! ## Calls -/

inductive LogCall where
  | pushRdz (room : List Char) (epochMs : UInt64) (line : List Char)
  | upload (room side body : List Char)
  | view (room : List Char)
  | mergeView (room : List Char)

inductive LogReply where
  | pushed
  | uploaded (accepted : Bool)
  | viewed (text : Option (List Char))

def call (call : LogCall) (now later : Instant) (self : RoomLogs) : LogReply × RoomLogs :=
  match call with
  | .pushRdz room epochMs line => (.pushed, self.pushRdz room epochMs line now later)
  | .upload room side body =>
    let (accepted, self) := self.upload room side body now later
    (.uploaded accepted, self)
  | .view room =>
    let (text, self) := self.view room now
    (.viewed text, self)
  | .mergeView room =>
    let (text, self) := self.mergeView room now
    (.viewed text, self)

/-- A call that returned. -/
structure LogEvent where
  call : LogCall
  now : Instant
  later : Instant
  reply : LogReply

/-- The stores after a history of calls, newest first; the clock does not go back. -/
inductive Reached (ttl : Duration) : List LogEvent → RoomLogs → Prop where
  | new : Reached ttl [] (.new ttl)
  | call {history : List LogEvent} {logs : RoomLogs} {made : LogCall} {now later : Instant}
      (before : Reached ttl history logs) (since : ∀ event ∈ history.head?, event.later ≤ now)
        (ordered : now ≤ later) :
      Reached ttl (⟨made, now, later, (logs.call made now later).1⟩ :: history)
        (logs.call made now later).2

/-! ## What a view is to show -/

/-- The event puts a line or a log into the room, where there is a place for the room. -/
def LogEvent.touches (room : List Char) (event : LogEvent) : Bool :=
  match event.call, event.reply with
  | .pushRdz other _ _, _ => other = room ∧ byteLen other ≤ maxRoomKey
  | .upload other _ _, .uploaded true => other = room
  | _, _ => false

/-- The log that the event replaces the side's by. -/
def LogEvent.replacement (side : List Char) (event : LogEvent) : Option (List Char) :=
  match event.call with
  | .upload _ other body => if other = side then some body else none
  | _ => none

def lastTouch (room : List Char) : List LogEvent → Option Instant
  | [] => none
  | event :: history => if event.touches room then some event.later else lastTouch room history

/-- Nothing was put into the room for the ttl. -/
def Idle (ttl : Duration) (room : List Char) (now : Instant) (history : List LogEvent) : Prop :=
  ∀ last ∈ lastTouch room history, ttl ≤ now - last

/-- The latest upload of the side that was accepted, where the room was not idle since. -/
def logOf (ttl : Duration) (room side : List Char) : Instant → List LogEvent → Option (List Char)
  | _, [] => none
  | now, event :: history =>
    if event.touches room then
      if now - event.later < ttl then
        (event.replacement side).or (logOf ttl room side event.now history)
      else none
    else logOf ttl room side now history

/-- The text of a view has the lane of the side, and one for every other side that has a log. -/
def ShowsLane (ttl : Duration) (history : List LogEvent) (room side body : List Char)
    (now : Instant) (text : Option (List Char)) : Prop :=
  ∃ rdz, ∃ before rest : List (List Char × List Char),
    text = some (rdzLane room rdz ++ before.flatMap clientLane ++ clientLane (side, body) ++
      rest.flatMap clientLane) ∧
      ∀ other log, (other, log) ∈ before ++ rest ↔
        other ≠ side ∧ logOf ttl room other now history = some log

/-! ## One room -/

/-- The log that a room shows of a side. -/
def RoomEntry.log (entry : RoomEntry) (side : List Char) : Option (List Char) :=
  (entry.clients.find? fun client => client.1 = side).map Prod.snd

structure RoomEntry.Bounded (entry : RoomEntry) : Prop where
  clients : entry.clients.length ≤ maxClientsPerRoom
  sides : (entry.clients.map Prod.fst).Nodup
  rdz : entry.rdz.length ≤ maxRdzLines

section Entry

variable {entry : RoomEntry} {side other body : List Char} {now later : Instant} {ttl : Duration}

theorem bounded_default : RoomEntry.default.Bounded :=
  ⟨Nat.zero_le _, List.nodup_nil, Nat.zero_le _⟩

theorem log_eq_some (bounded : entry.Bounded) : entry.log side = some body ↔
    (side, body) ∈ entry.clients := by
  unfold RoomEntry.log
  constructor
  · intro found
    obtain ⟨client, first, rfl⟩ := Option.map_eq_some_iff.mp found
    have same : client.1 = side := by simpa using List.find?_some first
    exact same ▸ List.mem_of_find?_eq_some first
  · intro listed
    cases first : entry.clients.find? fun client => client.1 = side with
    | none =>
      have absent := List.find?_eq_none.mp first (side, body) listed
      simp at absent
    | some client =>
      have same : client.1 = side := by simpa using List.find?_some first
      have equal :=
        List.inj_on_of_nodup_map bounded.sides (List.mem_of_find?_eq_some first) listed same
      rw [Option.map_some, equal]

theorem log_store : (entry.store side body later).log other = if other = side then some body
    else entry.log other := by
  unfold RoomEntry.log RoomEntry.store
  rw [List.find?_append]
  by_cases same : other = side
  · subst same
    have gone :
        (entry.clients.filter fun client => client.1 ≠ other).find?
            (fun client => client.1 = other) = none := by
      rw [List.find?_eq_none]
      simp
    rw [gone, if_pos rfl]
    simp
  · have kept :
        (entry.clients.filter fun client => client.1 ≠ side).find?
          (fun client => client.1 = other) =
        entry.clients.find? fun client => client.1 = other := by
      rw [List.find?_filter]
      congr 1
      funext client
      by_cases here : client.1 = other
      · simp [here, same]
      · simp [here]
    rw [kept, if_neg same]
    simp [Ne.symm same]

/-- A side that is there makes room for its own replacement. -/
theorem bounded_store (bounded : entry.Bounded)
    (place : entry.hasSide side = true ∨ entry.clients.length < maxClientsPerRoom) :
    (entry.store side body later).Bounded where
  clients := by
    show (_ ++ [(side, body)]).length ≤ _
    rw [List.length_append, List.length_singleton]
    cases place with
    | inl has =>
      have fewer : (entry.clients.filter fun client => client.1 ≠ side).length <
          entry.clients.length := by
        obtain ⟨client, listed, same⟩ := List.any_eq_true.mp has
        exact List.length_filter_lt_length_iff_exists.mpr ⟨client, listed, by simpa using same⟩
      exact fewer.trans_le bounded.clients
    | inr few => exact (List.length_filter_le _ _).trans_lt few
  sides := by
    show ((_ ++ [(side, body)]).map Prod.fst).Nodup
    rw [List.map_append, List.nodup_append]
    refine ⟨bounded.sides.sublist (List.filter_sublist.map _), List.nodup_singleton _, ?_⟩
    intro kept listed new singled
    obtain ⟨client, filtered, rfl⟩ := List.mem_map.mp listed
    obtain rfl : new = side := List.mem_singleton.mp singled
    exact of_decide_eq_true (List.mem_filter.mp filtered).2
  rdz := bounded.rdz

theorem clientBytes_store :
    (entry.store side body later).clientBytes + replacedBytes entry side ≤
      entry.clientBytes + byteLen body := by
  have kept :
      ((entry.clients.filter fun client => client.1 ≠ side).map fun client =>
        byteLen client.2).sum +
      replacedBytes entry side ≤ entry.clientBytes := by
    unfold replacedBytes RoomEntry.clientBytes
    induction entry.clients with
    | nil => exact Nat.le_refl 0
    | cons client clients ih =>
      by_cases same : client.1 = side
      · have rest := (List.filter_sublist (l := clients) (p := fun client => client.1 ≠ side)).map
          fun client => byteLen client.2
        have fewer := rest.sum_le_sum fun _ _ => Nat.zero_le _
        simp only [List.filter_cons, same, List.find?_cons, List.map_cons, List.sum_cons,
          ne_eq, not_true, decide_false, decide_true, Option.map_some, Option.getD_some,
          Bool.false_eq_true, if_false] at fewer ⊢
        omega
      · simp only [List.filter_cons, same, List.find?_cons, List.map_cons, List.sum_cons, ne_eq,
          not_false_iff, decide_false, decide_true, if_true] at ih ⊢
        omega
  have added : (entry.store side body later).clientBytes =
      ((entry.clients.filter fun client => client.1 ≠ side).map fun client =>
        byteLen client.2).sum + byteLen body := by
    unfold RoomEntry.clientBytes RoomEntry.store
    rw [List.map_append, List.sum_append, List.map_singleton, List.sum_singleton]
  omega

/-- What is fresh was fresh before. -/
theorem fresh_of_le {earlier : Instant} (ordered : earlier ≤ now)
    (fresh : entry.fresh ttl now = true) :
    entry.fresh ttl earlier = true := by
  unfold RoomEntry.fresh at fresh ⊢
  cases updated : entry.updated with
  | none =>
    rw [updated] at fresh
    cases fresh
  | some last =>
    rw [updated, Option.any_some, decide_eq_true_iff] at fresh
    rw [Option.any_some, decide_eq_true_iff]
    exact (Nat.sub_le_sub_right ordered last).trans_lt fresh

end Entry

/-! ## One call -/

/-- The caps of the store. -/
structure Bounded (logs : RoomLogs) : Prop where
  rooms : logs.rooms.size ≤ maxRooms
  entries : ∀ room entry, logs.rooms.get? room = some entry → entry.Bounded
  bytes : logs.rooms.sum RoomEntry.clientBytes ≤ maxClientBytes

/-- What a call leaves: `rooms` are those that were not idle. -/
inductive Effect (logs : RoomLogs) (event : LogEvent) (rooms : Rooms) : RoomLogs → Prop where
  | ignored (untouched : ∀ room, event.touches room = false) : Effect logs event rooms logs
  | evicted (untouched : ∀ room, event.touches room = true →
        rooms.get? room = none ∧ ∀ side, event.replacement side = none) :
      Effect logs event rooms { logs with rooms }
  | stored {room : List Char} {entry : RoomEntry}
      (touched : ∀ other, event.touches other = true ↔ other = room)
        (place : (rooms.get? room).isSome ∨ rooms.size < maxRooms)
        (updated : entry.updated = some event.later)
      (log : ∀ side, entry.log side = (event.replacement side).or ((orDefault rooms room).log side))
      (bounded : (orDefault rooms room).Bounded → entry.Bounded)
      (bytes : rooms.sum RoomEntry.clientBytes ≤ maxClientBytes →
        entry.clientBytes + (rooms.remove room).sum RoomEntry.clientBytes ≤ maxClientBytes) :
      Effect logs event rooms { logs with rooms := rooms.insert room entry }

section Calls

variable {logs : RoomLogs} {rooms : Rooms} {room side body : List Char} {now later : Instant}

/-- The bytes of a room are among those of the store. -/
theorem sum_orDefault (rooms : Rooms) (room : List Char) :
    (orDefault rooms room).clientBytes + (rooms.remove room).sum RoomEntry.clientBytes ≤
      rooms.sum RoomEntry.clientBytes := by
  unfold orDefault
  cases found : rooms.get? room with
  | none =>
    show 0 + _ ≤ _
    rw [Nat.zero_add]
    exact rooms.sum_retain_le _ _
  | some entry => exact (Table.sum_remove_of_found found _).le

theorem upload_effect (logs : RoomLogs) (room side body : List Char) (now later : Instant) :
    (logs.upload room side body now later).1 = false ∧
        (logs.upload room side body now later).2 =
          { logs with rooms := evict logs.ttl now logs.rooms } ∨
      (logs.upload room side body now later).1 = true ∧
        Effect logs ⟨.upload room side body, now, later,
          .uploaded true⟩ (evict logs.ttl now logs.rooms)
          (logs.upload room side body now later).2 ∧
        (logs.upload room side body now later).2 = { logs with
          rooms := (evict logs.ttl now logs.rooms).insert room
            ((orDefault (evict logs.ttl now logs.rooms) room).store side body later) } := by
  unfold upload
  generalize evict logs.ttl now logs.rooms = rooms
  -- The three questions asked of a room that may be absent are those of the entry it would get.
  have replaced : ((rooms.get? room).map fun entry => replacedBytes entry side).getD 0 =
      replacedBytes (orDefault rooms room) side := by
    unfold orDefault
    cases rooms.get? room <;> rfl
  have newSide : (rooms.get? room).all (fun entry => !entry.hasSide side) =
      !(orDefault rooms room).hasSide side := by
    unfold orDefault
    cases rooms.get? room <;> rfl
  have crowded : (rooms.get? room).any (fun entry => entry.clients.length ≥ maxClientsPerRoom) =
      decide ((orDefault rooms room).clients.length ≥ maxClientsPerRoom) := by
    unfold orDefault
    cases rooms.get? room <;> rfl
  simp only [replaced, newSide, crowded]
  split
  case isTrue full => exact .inl ⟨rfl, rfl⟩
  case isFalse place =>
    split
    case isTrue many => exact .inl ⟨rfl, rfl⟩
    case isFalse few =>
      split
      case isTrue taken => exact .inl ⟨rfl, rfl⟩
      case isFalse free =>
        refine .inr ⟨rfl, .stored (fun other => ?_) ?_ rfl (fun other => ?_) (fun bounded => ?_)
          (fun bytes => ?_), rfl⟩
        · show decide (room = other) = true ↔ _
          rw [decide_eq_true_iff, eq_comm]
        · cases found : rooms.get? room with
          | none => exact .inr (Nat.lt_of_not_le fun full => place ⟨by rw [found]; rfl, full⟩)
          | some entry => exact .inl rfl
        · rw [log_store]
          show _ = (if side = other then some body else none).or _
          by_cases same : other = side
          · rw [if_pos same, if_pos same.symm]
            rfl
          · rw [if_neg same, if_neg (Ne.symm same)]
            rfl
        · apply bounded_store bounded
          cases has : (orDefault rooms room).hasSide side with
          | true => exact .inl rfl
          | false =>
            refine .inr (Nat.lt_of_not_le fun many => free ⟨?_, decide_eq_true many⟩)
            rw [has]
            rfl
        · have stored := @clientBytes_store (orDefault rooms room) side body later
          -- the bytes that the side's log replaces are counted once, in the room's share
          have among := sum_orDefault rooms room
          omega

theorem pushRdz_effect (logs : RoomLogs) (room : List Char) (epochMs : UInt64) (line : List Char)
    (now later : Instant) :
    Effect logs ⟨.pushRdz room epochMs line, now, later, .pushed⟩ (evict logs.ttl now logs.rooms)
      (logs.pushRdz room epochMs line now later) := by
  have touches :
      ∀ other, LogEvent.touches other ⟨.pushRdz room epochMs line, now, later, .pushed⟩ = true ↔
      room = other ∧ byteLen room ≤ maxRoomKey := fun _ => decide_eq_true_iff
  unfold pushRdz
  generalize evict logs.ttl now logs.rooms = rooms
  split
  case isTrue long =>
    refine .ignored fun other => Bool.eq_false_iff.mpr fun touched => ?_
    exact absurd ((touches other).mp touched).2 (Nat.not_le_of_lt long)
  case isFalse short =>
    have short := Nat.le_of_not_lt short
    simp only
    split
    case isTrue full =>
      refine .evicted fun other touched => ?_
      obtain ⟨rfl, -⟩ := (touches other).mp touched
      exact ⟨Option.isNone_iff_eq_none.mp full.1, fun _ => rfl⟩
    case isFalse place =>
      refine .stored (fun other => ?_) ?_ rfl (fun other => rfl) (fun bounded => ?_)
        (fun bytes => ?_)
      · rw [touches]
        exact ⟨fun touched => touched.1.symm, fun same => ⟨same.symm, short⟩⟩
      · cases found : rooms.get? room with
        | none => exact .inr (Nat.lt_of_not_le fun full => place ⟨by rw [found]; rfl, full⟩)
        | some entry => exact .inl rfl
      · refine ⟨bounded.clients, bounded.sides, ?_⟩
        show List.length (if _ then _ else _) ≤ _
        split
        case isTrue long =>
          rw [List.length_drop]
          omega
        case isFalse within => exact Nat.le_of_not_lt within
      · exact (sum_orDefault rooms room).trans bytes

theorem call_effect (logs : RoomLogs) (call : LogCall) (now later : Instant) :
    Effect logs ⟨call, now, later, (logs.call call now later).1⟩ (evict logs.ttl now logs.rooms)
      (logs.call call now later).2 := by
  cases call with
  | pushRdz room epochMs line => exact pushRdz_effect logs room epochMs line now later
  | upload room side body =>
    show Effect logs ⟨_, now, later, .uploaded (logs.upload room side body now later).1⟩ _
      (logs.upload room side body now later).2
    obtain ⟨refused, left⟩ | ⟨accepted, effect, -⟩ := upload_effect logs room side body now later
    · rw [refused, left]
      exact .evicted nofun
    · rw [accepted]
      exact effect
  | view room => exact .evicted nofun
  | mergeView room => exact .evicted nofun

end Calls

/-! ## Runs -/

/-- What holds of a store and its history: a room remembers when it was last touched, and shows what
it is to show. -/
structure Sound (ttl : Duration) (history : List LogEvent) (logs : RoomLogs) : Prop where
  configured : logs.ttl = ttl
  bounded : logs.Bounded
  touched : ∀ room entry, logs.rooms.get? room = some entry →
    entry.updated = lastTouch room history ∧ (lastTouch room history).isSome
  shows : ∀ room side now, (∀ event ∈ history.head?, event.later ≤ now) →
    ((evict ttl now logs.rooms).get? room).bind (RoomEntry.log · side) =
      logOf ttl room side now history

section Runs

variable {ttl : Duration} {history : List LogEvent} {logs : RoomLogs} {event : LogEvent}
  {rooms : Rooms}
  {room side : List Char} {now : Instant}

theorem get?_evict :
    (evict ttl now rooms).get? room = (rooms.get? room).filter (RoomEntry.fresh ttl now) :=
  Table.get?_retain _ _ _

/-- An eviction takes nothing that a later one would leave. -/
theorem get?_evict_evict {earlier : Instant} (ordered : earlier ≤ now) :
    (evict ttl now (evict ttl earlier rooms)).get? room = (evict ttl now rooms).get? room := by
  rw [get?_evict, get?_evict, get?_evict, Option.filter_filter]
  congr 1
  funext entry
  cases fresh : entry.fresh ttl now with
  | false => rw [Bool.and_false]
  | true => rw [fresh_of_le ordered fresh, Bool.and_self]

theorem Bounded.evict (bounded : logs.Bounded) (ttl : Duration) (now : Instant) :
    Bounded { logs with rooms := evict ttl now logs.rooms } where
  rooms := (Table.size_retain_le _ _).trans bounded.rooms
  entries := by
    intro room entry found
    rw [get?_evict] at found
    exact bounded.entries room entry (Option.eq_some_of_filter_eq_some found)
  bytes := (Table.sum_retain_le _ _ _).trans bounded.bytes

/-- What a side shows where the rooms were just evicted, also where there is no entry yet. -/
theorem log_orDefault :
    (orDefault rooms room).log side = (rooms.get? room).bind (RoomEntry.log · side) := by
  unfold orDefault
  cases rooms.get? room <;> rfl

theorem Effect.bounded {left : RoomLogs}
    (effect : Effect logs event (RoomLogs.evict ttl now logs.rooms) left) (before : logs.Bounded) :
    left.Bounded := by
  have evicted := before.evict ttl now
  cases effect with
  | ignored _ => exact before
  | evicted _ => exact evicted
  | @stored room entry _ place _ _ bounded bytes =>
    refine ⟨?_, fun other found listed => ?_, ?_⟩
    · cases place with
      | inl present =>
        obtain ⟨old, found⟩ := Option.isSome_iff_exists.mp present
        have one := Table.sum_remove_of_found found fun _ => 1
        have size : ∀ rooms : Rooms, rooms.sum (fun _ => 1) = rooms.size := fun rooms => by
          simp [Table.sum, Table.size]
        rw [size, size] at one
        show ((RoomLogs.evict ttl now logs.rooms).remove room).entries.length + 1 ≤ maxRooms
        have fits : (RoomLogs.evict ttl now logs.rooms).size ≤ maxRooms := evicted.rooms
        have same : ((RoomLogs.evict ttl now logs.rooms).remove room).entries.length =
            ((RoomLogs.evict ttl now logs.rooms).remove room).size := rfl
        omega
      | inr free => exact (Table.size_insert_le _ _ _).trans free
    · rw [Table.get?_insert] at listed
      split at listed
      case isTrue here =>
        obtain rfl := Option.some.inj listed
        apply bounded
        unfold orDefault
        cases old : (RoomLogs.evict ttl now logs.rooms).get? room with
        | none => exact bounded_default
        | some kept => exact evicted.entries room kept old
      case isFalse _ => exact evicted.entries other found listed
    · show Table.sum (Table.insert _ _ _) _ ≤ _
      rw [Table.sum_insert]
      exact bytes evicted.bytes

theorem Sound.new (ttl : Duration) : Sound ttl [] (.new ttl) :=
  ⟨rfl, ⟨Nat.zero_le _, nofun, Nat.zero_le _⟩, nofun, fun _ _ _ _ => rfl⟩

theorem lastTouch_touched (touched : event.touches room = true) :
    lastTouch room (event :: history) = some event.later := if_pos touched

theorem lastTouch_untouched (untouched : ¬ event.touches room = true) :
    lastTouch room (event :: history) = lastTouch room history := if_neg untouched

theorem Sound.call {left : RoomLogs} (sound : Sound ttl history logs)
    (since : ∀ last ∈ history.head?, last.later ≤ event.now) (ordered : event.now ≤ event.later)
      (effect : Effect logs event (evict logs.ttl event.now logs.rooms) left) :
    Sound ttl (event :: history) left := by
  obtain ⟨rfl, bounded, touched, shows⟩ := sound
  -- what is found after the eviction was there, and remembers its touch
  have found : ∀ room entry, (evict logs.ttl event.now logs.rooms).get? room = some entry →
      logs.rooms.get? room = some entry := by
    intro room entry found
    rw [get?_evict] at found
    exact Option.eq_some_of_filter_eq_some found
  have later : ∀ {now}, (∀ last ∈ (event :: history).head?, last.later ≤ now) → event.later ≤ now :=
    fun after => after event rfl
  refine ⟨?_, effect.bounded bounded, ?_, ?_⟩
  · cases effect <;> rfl
  · intro room entry listed
    cases effect with
    | ignored untouched =>
      rw [lastTouch_untouched (by simp [untouched])]
      exact touched room entry listed
    | evicted untouched =>
      have here : ¬ event.touches room = true := by
        intro touches
        rw [(untouched room touches).1] at listed
        cases listed
      rw [lastTouch_untouched here]
      exact touched room entry (found room entry listed)
    | stored touches _ updated _ _ _ =>
      rw [Table.get?_insert] at listed
      split at listed
      case isTrue same =>
        obtain rfl := Option.some.inj listed
        rw [lastTouch_touched ((touches room).mpr same)]
        exact ⟨updated, rfl⟩
      case isFalse other =>
        rw [lastTouch_untouched fun here => other ((touches room).mp here)]
        exact touched room entry (found room entry listed)
  · intro room side now after
    have after := later after
    have earlier := ordered.trans after
    have old := shows room side now fun last listed => (since last listed).trans earlier
    have shown := shows room side event.now since
    cases effect with
    | ignored untouched =>
      rw [logOf, if_neg (by simp [untouched])]
      exact old
    | evicted untouched =>
      show ((evict logs.ttl now (evict logs.ttl event.now logs.rooms)).get? room).bind _ = _
      rw [get?_evict_evict earlier, logOf]
      split
      case isTrue touches =>
        -- there was no place for the room, so nothing of it was stored or is left
        obtain ⟨absent, keeps⟩ := untouched room touches
        rw [absent] at shown
        rw [← get?_evict_evict earlier, get?_evict, absent, ← shown, keeps side]
        exact (ite_self none).symm
      case isFalse _ => exact old
    | @stored touchedRoom entry touches _ updated log _ _ =>
      show ((evict logs.ttl now (Table.insert _ _ _)).get? room).bind _ = _
      rw [get?_evict, Table.get?_insert, logOf]
      by_cases same : room = touchedRoom
      · subst same
        rw [if_pos rfl, if_pos ((touches room).mpr rfl), ← shown, ← log_orDefault, ← log,
          Option.filter_some]
        have fresh : entry.fresh logs.ttl now = decide (now - event.later < logs.ttl) := by
          rw [RoomEntry.fresh, updated]
          rfl
        rw [fresh]
        by_cases recent : now - event.later < logs.ttl
        · rw [if_pos (decide_eq_true recent), if_pos recent]
          rfl
        · rw [if_neg (by simpa using recent), if_neg recent]
          rfl
      · rw [if_neg same, if_neg fun here => same ((touches room).mp here), ← get?_evict,
          get?_evict_evict earlier]
        exact old

theorem Reached.sound {ttl : Duration} {history : List LogEvent} {logs : RoomLogs}
    (reached : Reached ttl history logs) :
    Sound ttl history logs := by
  induction reached with
  | new => exact .new ttl
  | call before since ordered ih => exact ih.call since ordered (call_effect _ _ _ _)

/-- What an eviction leaves of a sound store: the rooms that are not idle. -/
theorem Sound.evicted (sound : Sound ttl history logs) (room : List Char) (now : Instant)
    [Decidable (Idle ttl room now history)] :
    (evict logs.ttl now logs.rooms).get? room = if Idle ttl room now history then none
      else logs.rooms.get? room := by
  rw [get?_evict, sound.configured]
  cases found : logs.rooms.get? room with
  | none => exact (ite_self none).symm
  | some entry =>
    obtain ⟨updated, touched⟩ := sound.touched room entry found
    obtain ⟨last, last_eq⟩ := Option.isSome_iff_exists.mp touched
    have idle : Idle ttl room now history ↔ ¬ entry.fresh ttl now = true := by
      rw [Idle, RoomEntry.fresh, updated, last_eq]
      simp
    rw [Option.filter_some]
    by_cases fresh : entry.fresh ttl now = true
    · rw [if_pos fresh, if_neg fun holds => idle.mp holds fresh]
    · rw [if_neg fresh, if_pos (idle.mpr fresh)]

theorem Sound.view (sound : Sound ttl history logs) {body : List Char}
    (after : ∀ event ∈ history.head?, event.later ≤ now)
      (logged : logOf ttl room side now history = some body) :
    ShowsLane ttl history room side body now (logs.view room now).1 := by
  have shows := fun side => sound.shows room side now after
  have evicted := sound.bounded.evict ttl now
  unfold RoomLogs.view
  rw [← shows] at logged
  rw [sound.configured]
  obtain ⟨entry, found, logged⟩ := Option.bind_eq_some_iff.mp logged
  have bounded := evicted.entries room entry found
  obtain ⟨before, rest, split⟩ := List.append_of_mem ((log_eq_some bounded).mp logged)
  refine ⟨entry.rdz, before, rest, ?_, fun other log => ?_⟩
  · show Option.map _ ((RoomLogs.evict ttl now logs.rooms).get? room) = _
    rw [found, Option.map_some, split, List.flatMap_append, List.flatMap_cons]
    simp only [List.append_assoc]
  · rw [← shows, found, Option.bind_some, log_eq_some bounded, split]
    have sides := bounded.sides
    rw [split, List.map_append, List.map_cons] at sides
    have single := List.nodup_middle.mp sides
    rw [List.nodup_cons, ← List.map_append] at single
    constructor
    · intro listed
      refine ⟨fun same => single.1 (List.mem_map.mpr ⟨_, listed, same⟩), ?_⟩
      simp only [List.mem_append, List.mem_cons] at listed ⊢
      exact listed.imp_right .inr
    · intro ⟨elsewhere, listed⟩
      simp only [List.mem_append, List.mem_cons, Prod.mk.injEq, elsewhere, false_and,
        false_or] at listed ⊢
      exact listed

end Runs

/-! ## The store is bounded -/

/-- At every point of a run the caps hold; a refused upload leaves all but the idle rooms, an
accepted one all but the log of its side; and a view shows of every side the latest upload since the
room was idle. -/
theorem roomLogs_bounded {ttl : Duration} {history : List LogEvent} {logs : RoomLogs}
    (reached : Reached ttl history logs) :
    (logs.rooms.size ≤ 1024 ∧ logs.rooms.sum RoomEntry.clientBytes ≤ 256 * 1024 * 1024 ∧
      ∀ room entry, logs.rooms.get? room = some entry →
        entry.clients.length ≤ 4 ∧ (entry.clients.map Prod.fst).Nodup ∧ entry.rdz.length ≤ 2000) ∧
    (∀ room side body now later, (logs.upload room side body now later).1 = false → ∀ other,
      (Idle ttl other now history →
        (logs.upload room side body now later).2.rooms.get? other = none) ∧
      (¬ Idle ttl other now history →
        (logs.upload room side body now later).2.rooms.get? other = logs.rooms.get? other)) ∧
    (∀ room side body now later, (logs.upload room side body now later).1 = true →
      ∀ other otherSide,
      (other, otherSide) ≠ (room, side) →
        ((logs.upload room side body now later).2.rooms.get? other).bind
          (RoomEntry.log · otherSide) =
          ((evict ttl now logs.rooms).get? other).bind (RoomEntry.log · otherSide)) ∧
    (∀ room side body now, (∀ event ∈ history.head?, event.later ≤ now) →
      logOf ttl room side now history = some body →
      ShowsLane ttl history room side body now (logs.view room now).1) := by
  have sound := reached.sound
  refine ⟨⟨sound.bounded.rooms, sound.bounded.bytes, fun room entry found => ?_⟩, ?_, ?_,
    fun _ _ _ _ => sound.view⟩
  · have bounded := sound.bounded.entries room entry found
    exact ⟨bounded.clients, bounded.sides, bounded.rdz⟩
  · intro room side body now later refused other
    obtain ⟨-, left⟩ | ⟨accepted, -⟩ := upload_effect logs room side body now later
    · classical
      rw [left]
      have evicted := sound.evicted other now
      exact ⟨fun idle => evicted.trans (if_pos idle), fun busy => evicted.trans (if_neg busy)⟩
    · rw [accepted] at refused
      cases refused
  · intro room side body now later accepted other otherSide elsewhere
    obtain ⟨refused, -⟩ | ⟨-, -, left⟩ := upload_effect logs room side body now later
    · rw [refused] at accepted
      cases accepted
    · rw [left, sound.configured]
      show ((Table.insert _ _ _).get? other).bind _ = _
      rw [Table.get?_insert]
      split
      case isTrue same =>
        subst same
        -- the same room, so the other log is of another side
        have side_ne : otherSide ≠ side := fun same => elsewhere (congrArg _ same)
        rw [Option.bind_some, log_store, if_neg side_ne, log_orDefault]
      case isFalse _ => rfl

/-- A peer uploads and the upload is shown, a nanosecond on. -/
theorem roomLogs_bounded_uploaded :
    ShowsLane 60 [⟨.upload ['r'] ['s'] ['x'], 0, 0, .uploaded true⟩] ['r'] ['s'] ['x'] 1
      (((RoomLogs.new 60).upload ['r'] ['s'] ['x'] 0 0).2.view ['r'] 1).1 :=
  (roomLogs_bounded (.call .new nofun (Nat.le_refl 0) :
      Reached 60 [⟨.upload ['r'] ['s'] ['x'], 0, 0, .uploaded true⟩]
        ((RoomLogs.new 60).upload ['r'] ['s'] ['x'] 0 0).2)).2.2.2
    ['r'] ['s'] ['x'] 1 (fun _ listed => Option.some.inj listed ▸ Nat.zero_le 1) rfl

end RoomLogs

end Envoix.Rendezvous
