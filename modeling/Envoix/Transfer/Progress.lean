import Envoix.Foundation.CallHistory
import Envoix.Transfer.EngineWorld

/-! # What the data plane reports as completed

The values handed to `on_progress` in a run, and the rule under which calls are made: a report
never goes back and never passes the total, and `JobComplete` goes out, or is answered, at the
total only.  The rules below follow the last report through `send` and `receive`. -/

namespace Envoix.Transfer

open ByteCodec Fallible Process Process.Method Envoix.Protocol

abbrev EngineEvent := Event EngineOp EngineReply

/-- The completed bytes reported so far, in order. -/
def reports (history : List EngineEvent) : List UInt64 :=
  history.filterMap fun
    | ⟨.onProgress completed _, _⟩ => some completed
    | _ => none

def lastReport (history : List EngineEvent) : Option UInt64 := (reports history).getLast?

/-- `JobComplete` has come in. -/
def JobCompleteArrived (history : List EngineEvent) : Prop :=
  ∃ complete, (⟨.delivery .recvManifestV2Frame, .ok (.jobComplete complete)⟩ : EngineEvent) ∈
    history

def errorOf {α : Type} : Except ManifestV2DataError α → Option ManifestV2DataError
  | .ok _ => none
  | .error error => some error

/-- The data-plane error that a sink, a gate or a source replies with. -/
def EngineOp.failure : (op : EngineOp) → EngineReply op → Option ManifestV2DataError
  | .beginEntry .., reply => errorOf reply
  | .writeBlock .., reply => errorOf reply
  | .tryChooseReuse .., reply => errorOf reply
  | .verifyPayload .., reply => errorOf reply
  | .stageDirectory _, reply => errorOf reply
  | .commitJob .., reply => errorOf reply
  | .retirePayload _, reply => errorOf reply
  | .commitResults .., reply => errorOf reply
  | .sourceForSealedEntry _, reply => errorOf reply
  | .openSource _, reply => errorOf reply
  | .readSample _, reply => errorOf reply
  | .verifyUnchanged _, reply => errorOf reply
  | .awaitHashTask _, reply => errorOf reply
  | _, _ => none

/-- A block whose own place or end is past any `u64`. -/
def BeyondU64 (block : EntryBlockV2) : Prop :=
  2 ^ 64 ≤ block.blockIndex.toNat * defaultBlockBytes.toNat ∨
    2 ^ 64 ≤ block.plaintextOffset.toNat + block.plaintextLength.toNat

/-- An overflow that is none of the counting: the environment replies with it, or the peer sends
a block that lies beyond any file. -/
def EngineOp.bringsOverflow : (op : EngineOp) → EngineReply op → Prop
  | .delivery .recvManifestV2Frame, .ok (.entryBlock block) => BeyondU64 block
  | op, reply => op.failure reply = some .arithmeticOverflow

def OverflowArrived (history : List EngineEvent) : Prop :=
  ∃ event ∈ history, event.1.bringsOverflow event.2

theorem reports_append (history events : List EngineEvent) :
    reports (history ++ events) = reports history ++ reports events := by
  simp only [reports, List.filterMap_append]

@[simp] theorem reports_onProgress (history : List EngineEvent) (completed total : UInt64)
    (reply : Unit) :
    reports (history ++ [⟨.onProgress completed total, reply⟩]) = reports history ++ [completed] :=
  reports_append history _

@[simp] theorem lastReport_onProgress (history : List EngineEvent) (completed total : UInt64)
    (reply : Unit) :
    lastReport (history ++ [⟨.onProgress completed total, reply⟩]) = some completed := by
  rw [lastReport, reports_onProgress, List.getLast?_append, List.getLast?_singleton]
  rfl

theorem overflowArrived_append {history events : List EngineEvent}
    (arrived : OverflowArrived history) :
    OverflowArrived (history ++ events) := by
  obtain ⟨event, listed, brings⟩ := arrived
  exact ⟨event, List.mem_append_left _ listed, brings⟩

/-! ## The rule -/

/-- What a count is made for: the total of the manifest, what the environment may do, and the
ledgers that may be saved.  `vast` says that some entry is too large for the data plane at all. -/
structure Accounting where
  total : UInt64
  arrives : ManifestV2Frame → Prop
  reusable : ManifestEntryV2 → Prop
  saves : ReceiverDataPlaneLedgerV2 → Prop
  vast : Prop

/-- The last report and what is known to have arrived. -/
structure Standing where
  last : Option UInt64
  overflowed : Prop

namespace Accounting

variable (accounting : Accounting)

def contract : Contract EngineOp EngineReply (EngineWorld × List EngineEvent) :=
  (engineContract accounting.arrives accounting.reusable fun _ => True).recording

/-- The calls that may follow this history. -/
structure Allows (world : EngineWorld × List EngineEvent) (op : EngineOp) : Prop where
  settled : JobCompleteArrived world.2 → lastReport world.2 = some accounting.total
  completes : ∀ complete, op = .delivery (.sendManifestV2Frame (.jobComplete complete)) →
    lastReport world.2 = some accounting.total
  reported : ∀ completed total, op = .onProgress completed total →
    total = accounting.total ∧ completed ≤ accounting.total ∧
      ∀ last ∈ lastReport world.2, last ≤ completed
  saved : ∀ ledger, op = .saveLedger ledger → accounting.saves ledger

/-- A world in this standing. -/
structure Stands (standing : Standing) (world : EngineWorld × List EngineEvent) : Prop where
  last : lastReport world.2 = standing.last
  settled : JobCompleteArrived world.2 → standing.last = some accounting.total
  overflowed : standing.overflowed → OverflowArrived world.2

/-- An overflow has come from elsewhere, or the manifest is refused before anything is counted. -/
def Excused (error : ManifestV2DataError) (history : List EngineEvent) : Prop :=
  error = .arithmeticOverflow → OverflowArrived history ∨ accounting.vast ∧ reports history = []

def Excuses (standing : Standing) (error : ManifestV2DataError) : Prop :=
  error = .arithmeticOverflow → standing.overflowed ∨ accounting.vast ∧ standing.last = none

end Accounting

/-- Calls that report nothing, end nothing and save nothing. -/
structure EngineOp.Plain (op : EngineOp) : Prop where
  completes : ∀ complete, op ≠ .delivery (.sendManifestV2Frame (.jobComplete complete))
  receives : op ≠ .delivery .recvManifestV2Frame
  reported : ∀ completed total, op ≠ .onProgress completed total
  saved : ∀ ledger, op ≠ .saveLedger ledger

namespace Accounting

variable {accounting : Accounting} {standing : Standing} {world : EngineWorld × List EngineEvent}

theorem Stands.excused (stands : accounting.Stands standing world) {error : ManifestV2DataError}
    (excuses : accounting.Excuses standing error) : accounting.Excused error world.2 := by
  intro overflow
  obtain arrived | ⟨vast, none⟩ := excuses overflow
  · exact .inl (stands.overflowed arrived)
  · refine .inr ⟨vast, ?_⟩
    rw [← stands.last] at none
    exact List.getLast?_eq_none_iff.mp none

theorem Stands.allows (stands : accounting.Stands standing world) {op : EngineOp}
    (plain : op.Plain) :
    accounting.Allows world op where
  settled := fun arrived => stands.last.trans (stands.settled arrived)
  completes := fun complete same => absurd same (plain.completes complete)
  reported := fun completed total same => absurd same (plain.reported completed total)
  saved := fun ledger same => absurd same (plain.saved ledger)

/-- A call that reports nothing, and no `JobComplete` before its time. -/
theorem Stands.next (stands : accounting.Stands standing world) {op : EngineOp}
    {reply : EngineReply op} {next : EngineWorld} (silent : reports [⟨op, reply⟩] = [])
    (settled : JobCompleteArrived [⟨op, reply⟩] → standing.last = some accounting.total) :
    accounting.Stands { standing with overflowed := standing.overflowed ∨ op.bringsOverflow reply }
      (next, world.2 ++ [⟨op, reply⟩]) where
  last := by
    show (reports (world.2 ++ [⟨op, reply⟩])).getLast? = standing.last
    rw [reports_append, silent, List.append_nil]
    exact stands.last
  settled := by
    intro ⟨complete, listed⟩
    obtain earlier | now := List.mem_append.mp listed
    · exact stands.settled ⟨complete, earlier⟩
    · exact settled ⟨complete, now⟩
  overflowed := by
    intro overflowed
    obtain earlier | now := overflowed
    · exact overflowArrived_append (stands.overflowed earlier)
    · exact ⟨⟨op, reply⟩, List.mem_append_right _ List.mem_cons_self, now⟩

theorem Stands.weaken (stands : accounting.Stands standing world) {overflowed : Prop}
    (implies : overflowed → standing.overflowed) :
    accounting.Stands { standing with overflowed } world where
  last := stands.last
  settled := stands.settled
  overflowed := fun known => stands.overflowed (implies known)

theorem Stands.plain (stands : accounting.Stands standing world) {op : EngineOp} (plain : op.Plain)
    (reply : EngineReply op) (next : EngineWorld) :
    accounting.Stands { standing with overflowed := standing.overflowed ∨ op.bringsOverflow reply }
      (next, world.2 ++ [⟨op, reply⟩]) := by
  refine stands.next ?_ ?_
  · cases op with
    | onProgress completed total => exact absurd rfl (plain.reported completed total)
    | _ => rfl
  · intro ⟨complete, listed⟩
    exact absurd (Sigma.mk.inj (List.mem_singleton.mp listed)).1.symm plain.receives

end Accounting

/-! ## Histories that obey the rule -/

namespace Accounting

variable {accounting : Accounting} {history : List EngineEvent}

/-- Every call was allowed when it was made. -/
def Obeyed (accounting : Accounting) (history : List EngineEvent) : Prop :=
  ∀ (before : List EngineEvent) (op : EngineOp) (reply : EngineReply op) (after : List EngineEvent),
    history = before ++ ⟨op, reply⟩ :: after → ∃ world, accounting.Allows (world, before) op

/-- The reports of such a history ascend and stay within the total. -/
theorem Obeyed.ascends (obeyed : accounting.Obeyed history) :
    (reports history).Pairwise (· ≤ ·) ∧
      (∀ completed ∈ reports history, completed ≤ accounting.total) ∧
        ∀ completed ∈ reports history, ∀ last ∈ lastReport history, completed ≤ last := by
  induction history using List.reverseRecOn with
  | nil => simp [reports]
  | append_singleton init event ih =>
    have earlier : accounting.Obeyed init := by
      intro before op reply after split
      refine obeyed before op reply (after ++ [event]) ?_
      rw [split, List.append_assoc]
      rfl
    obtain ⟨ascending, bounded, below⟩ := ih earlier
    obtain ⟨op, reply⟩ := event
    obtain ⟨world, allows⟩ := obeyed init op reply [] rfl
    cases op with
    | onProgress completed total =>
      obtain ⟨-, inside, above⟩ := allows.reported completed total rfl
      -- The last report before this one is the greatest of them.
      have beneath : ∀ found ∈ reports init, found ≤ completed := by
        intro found listed
        cases last : lastReport init with
        | none => exact absurd (List.getLast?_eq_none_iff.mp last) (List.ne_nil_of_mem listed)
        | some greatest =>
          exact UInt64.le_trans (below found listed greatest last) (above greatest last)
      rw [reports_onProgress, lastReport_onProgress]
      refine ⟨List.pairwise_append.mpr ⟨ascending, List.pairwise_singleton _ _,
        by simpa using beneath⟩, ?_, ?_⟩
      · intro found listed
        obtain before | now := List.mem_append.mp listed
        · exact bounded found before
        · exact List.mem_singleton.mp now ▸ inside
      · intro found listed last same
        obtain rfl := Option.some.inj same
        obtain before | now := List.mem_append.mp listed
        · exact beneath found before
        · rw [List.mem_singleton.mp now]
          exact UInt64.le_refl _
    | _ =>
      have silent : ∀ event : EngineEvent, reports [event] = [] →
        reports (init ++ [event]) = reports init :=
        fun event none => by rw [reports_append, none, List.append_nil]
      rw [lastReport, silent _ rfl]
      exact ⟨ascending, bounded, below⟩

end Accounting

/-! ## Methods that report nothing -/

section Rules

variable {accounting : Accounting} {standing : Standing} {State α β : Type} {state : State}

/-- Whatever it is answered, the method leaves the standing alone, and a success satisfies
`post`. -/
def Calm (accounting : Accounting) (standing : Standing) (state : State)
    (method : EngineProgram State α) (post : α → State → Prop) : Prop :=
  ∀ world, accounting.Stands standing world → method.Ensures accounting.contract accounting.Allows
    (fun result left final => accounting.Stands standing final ∧
      (∀ value, result = .ok value → post value left) ∧ ∀ error, result = .error error →
        accounting.Excused error final.2) state world

/-- The method reports as it is allowed to; a success satisfies `post` in its new standing. -/
def Counts (accounting : Accounting) (standing : Standing) (state : State)
    (method : EngineProgram State α) (post : α → State → Standing → Prop) : Prop :=
  ∀ world, accounting.Stands standing world → method.Ensures accounting.contract accounting.Allows
    (resumeWith (fun value left final => ∃ standing, accounting.Stands standing final ∧
      post value left standing)
      fun error _ final => accounting.Excused error final.2) state world

theorem Calm.mono {method : EngineProgram State α} {post weaker : α → State → Prop}
    (calm : Calm accounting standing state method post)
    (implies : ∀ value left, post value left → weaker value left) :
    Calm accounting standing state method weaker :=
  fun world stands => (calm world stands).mono fun _ _ _ ⟨kept, success, failure⟩ =>
    ⟨kept, fun value same => implies _ _ (success value same), failure⟩

theorem Calm.counts {method : EngineProgram State α} {post : α → State → Standing → Prop}
    (calm : Calm accounting standing state method fun value left => post value left standing) :
    Counts accounting standing state method post := by
  intro world stands
  refine (calm world stands).mono fun result left final ⟨kept, success, failure⟩ => ?_
  cases result with
  | ok value => exact ⟨standing, kept, success value rfl⟩
  | error error => exact failure error rfl

theorem Calm.bind {first : EngineProgram State α} {next : α → EngineProgram State β}
    {post : β → State → Prop}
    (calm : Calm accounting standing state first fun value left =>
      Calm accounting standing left (next value) post) :
    Calm accounting standing state (first >>= next) post := by
  intro world stands
  rw [ensures_bind]
  refine (calm world stands).mono fun result left final ⟨kept, success, failure⟩ => ?_
  cases result with
  | ok value => exact success value rfl final kept
  | error error =>
    refine ⟨kept, nofun, fun other same => ?_⟩
    exact Except.error.inj same ▸ failure error rfl

theorem Counts.bind {first : EngineProgram State α} {next : α → EngineProgram State β}
    {post : β → State → Standing → Prop}
    (counts : Counts accounting standing state first fun value left standing =>
      Counts accounting standing left (next value) post) :
    Counts accounting standing state (first >>= next) post := by
  intro world stands
  rw [ensures_bind]
  refine (counts world stands).mono fun result left final after => ?_
  cases result with
  | ok value =>
    obtain ⟨standing, kept, rest⟩ := after
    exact rest final kept
  | error error => exact after

theorem Calm.counts_bind {first : EngineProgram State α} {next : α → EngineProgram State β}
    {post : β → State → Standing → Prop}
    (calm : Calm accounting standing state first fun value left =>
      Counts accounting standing left (next value) post) :
    Counts accounting standing state (first >>= next) post :=
  Counts.bind calm.counts

section Calm

variable {post : α → State → Prop}

theorem calm_raise {result : Except ManifestV2DataError α}
    (fails : ∀ error, result = .error error → accounting.Excuses standing error)
    (holds : ∀ value, result = .ok value → post value state) :
    Calm accounting standing state (raise result) post :=
  fun _ stands =>
    ensures_raise.mpr ⟨stands, holds, fun error same => stands.excused (fails error same)⟩

theorem calm_pure {value : α} (holds : post value state) :
    Calm accounting standing state (pure value) post :=
  fun _ stands => ensures_pure.mpr ⟨stands, fun _ same => Except.ok.inj same ▸ holds,
    fun _ other => nomatch other⟩

theorem calm_throw {error : ManifestV2DataError} (fails : accounting.Excuses standing error) :
    Calm accounting standing state (throw error : EngineProgram State α) post :=
  calm_raise (fun _ same => Except.error.inj same ▸ fails) fun _ other => nomatch other

/-- Any error but the overflow is none of the count's business. -/
theorem excuses_of_ne {error : ManifestV2DataError} (other : error ≠ .arithmeticOverflow) :
    accounting.Excuses standing error :=
  fun overflow => absurd overflow other

theorem calm_reject {refused : Prop} [Decidable refused] {error : ManifestV2DataError}
    {post : Unit → State → Prop} (other : error ≠ .arithmeticOverflow)
    (holds : ¬ refused → post () state) :
    Calm accounting standing state (raise (reject refused error)) post :=
  calm_raise (fun _ same => (reject_eq_error.mp same).2 ▸ excuses_of_ne other)
    fun _ same => holds (reject_eq_ok.mp same)

theorem calm_okOr {found : Option α} {error : ManifestV2DataError}
    (other : error ≠ .arithmeticOverflow) (holds : ∀ value, found = some value → post value state) :
    Calm accounting standing state (raise (okOr found error)) post :=
  calm_raise (fun _ same => (okOr_eq_error.mp same).2 ▸ excuses_of_ne other)
    fun value same => holds value (okOr_eq_ok.mp same)

theorem calm_get {post : State → State → Prop} (holds : post state state) :
    Calm accounting standing state get post :=
  fun _ stands => ensures_get.mpr ⟨stands, fun _ same => Except.ok.inj same ▸ holds,
    fun _ other => nomatch other⟩

theorem calm_set {next : State} {post : PUnit → State → Prop} (holds : post ⟨⟩ next) :
    Calm accounting standing state (set next) post :=
  fun _ stands => ensures_set.mpr ⟨stands, fun _ _ => holds, fun _ other => nomatch other⟩

theorem calm_perform {op : EngineOp} {post : EngineReply op → State → Prop} (plain : op.Plain)
    (holds : ∀ reply, post reply state) : Calm accounting standing state (perform op) post := by
  intro world stands
  rw [ensures_perform]
  refine ⟨stands.allows plain,
    fun reply _ => ⟨(stands.plain plain reply _).weaken .inl, ?_, fun _ other => nomatch other⟩⟩
  exact fun _ same => Except.ok.inj same ▸ holds reply

theorem bringsOverflow_of_failure {op : EngineOp} {reply : EngineReply op}
    (failed : op.failure reply = some .arithmeticOverflow) : op.bringsOverflow reply := by
  cases op with
  | delivery op => cases failed
  | _ => exact failed

/-- A sink, gate or source may fail with what it likes. -/
theorem calm_attempt {op : EngineOp} {same : EngineReply op = Except ManifestV2DataError α}
    (plain : op.Plain)
    (fails : ∀ reply error, cast same reply = .error error → op.failure reply = some error)
      (holds : ∀ value, post value state) :
        Calm accounting standing state (attempt op same) post := by
  intro world stands
  rw [attempt, ensures_bind, ensures_perform]
  refine ⟨stands.allows plain, fun reply _ => ?_⟩
  have after := stands.plain plain reply (world.1.after op reply)
  rw [resumeWith_ok, ensures_raise]
  refine ⟨after.weaken .inl, fun value _ => holds value, fun error failed overflow => ?_⟩
  exact .inl
    (after.overflowed (.inr (bringsOverflow_of_failure (overflow ▸ fails reply error failed))))

theorem calm_abort : Calm accounting standing state (abort : EngineProgram State α) post := by
  apply Calm.bind
  exact calm_perform ⟨nofun, nofun, nofun, nofun⟩ fun reply => nomatch reply

theorem calm_element {elements : List α} {index : Nat}
    (holds : ∀ found, elements[index]? = some found → post found state) :
    Calm accounting standing state (element elements index) post := by
  unfold element
  cases found : elements[index]? with
  | none => exact calm_abort
  | some value => exact calm_pure (holds value found)

variable {done : Unit → State → Prop}

theorem calm_sendFrame {frame : ManifestV2Frame} (open_ : ∀ complete, frame ≠ .jobComplete complete)
    (holds : done () state) :
    Calm accounting standing state (sendFrame frame) done := by
  apply Calm.bind
  refine calm_perform ⟨fun complete same => ?_, nofun, nofun, nofun⟩ fun reply => ?_
  · injection same with same
    injection same with same
    exact open_ complete same
  · refine calm_raise (fun error failed => ?_) fun _ _ => holds
    obtain ⟨_, _, rfl⟩ := mapErr_eq_error.mp failed
    exact excuses_of_ne nofun

theorem calm_onPhase {phase : ManifestV2ProgressPhase} (holds : done () state) :
    Calm accounting standing state (onPhase phase) done :=
  calm_perform ⟨nofun, nofun, nofun, nofun⟩ fun _ => holds

theorem calm_onStage {stage : TransferStage} (holds : done () state) :
    Calm accounting standing state (onStage stage) done :=
  calm_perform ⟨nofun, nofun, nofun, nofun⟩ fun _ => holds

end Calm

/-! ## Reports and frames -/

section Counts

variable {post : α → State → Standing → Prop} {done : Unit → State → Standing → Prop}

theorem counts_pure {value : α} (holds : post value state standing) :
    Counts accounting standing state (pure value) post := by
  apply Calm.counts
  exact calm_pure holds

theorem counts_throw {error : ManifestV2DataError} (fails : accounting.Excuses standing error) :
    Counts accounting standing state (throw error : EngineProgram State α) post := by
  apply Calm.counts
  exact calm_throw fails

/-- A report between the last one and the total. -/
theorem counts_onProgress {completed : UInt64} (within : completed ≤ accounting.total)
    (further : ∀ last ∈ standing.last, last ≤ completed)
    (holds : done () state { standing with last := some completed }) :
    Counts accounting standing state (onProgress completed accounting.total) done := by
  intro world stands
  have settled : JobCompleteArrived world.2 → completed = accounting.total := fun arrived =>
    UInt64.le_antisymm within (further _ (stands.settled arrived))
  refine (@ensures_perform _ _ _ accounting.contract _ _ _ state world
    (.onProgress completed accounting.total) _).mpr
    ⟨?_, fun reply _ => ⟨_, ?_, holds⟩⟩
  · exact {
      settled := fun arrived => stands.last.trans (stands.settled arrived)
      completes := nofun
      reported := fun _ _ same => by
        cases same
        exact ⟨rfl, within, fun last found => further last (stands.last ▸ found)⟩
      saved := nofun }
  · refine ⟨lastReport_onProgress _ _ _ _, ?_,
      fun known => overflowArrived_append (stands.overflowed known)⟩
    intro ⟨complete, listed⟩
    obtain earlier | now := List.mem_append.mp listed
    · exact congrArg some (settled ⟨complete, earlier⟩)
    · cases (Sigma.mk.inj (List.mem_singleton.mp now)).1

/-- Bytes that still fit below the total. -/
theorem counts_advance {completed bytes : UInt64} {post : UInt64 → State → Standing → Prop}
    (here : standing.last = some completed)
    (fits : completed.toNat + bytes.toNat ≤ accounting.total.toNat)
    (holds : ∀ next : UInt64, next.toNat = completed.toNat + bytes.toNat →
      post next state { standing with last := some next }) :
    Counts accounting standing state (advance completed bytes accounting.total) post := by
  have below := accounting.total.toNat_lt
  apply Calm.counts_bind
  refine calm_raise (fun error failed => ?_) fun next added => ?_
  · -- the sum is representable, so the addition does not fail
    obtain ⟨overflow, -⟩ := okOr_eq_error.mp failed
    have sum : checkedAdd64 completed bytes = some (completed + bytes) :=
      checkedAdd64_eq_some.mpr ⟨by omega, by rw [UInt64.toNat_add]; omega⟩
    rw [sum] at overflow
    cases overflow
  · obtain ⟨-, sum⟩ := checkedAdd64_eq_some.mp (okOr_eq_ok.mp added)
    apply Counts.bind
    refine counts_onProgress ?_ ?_ ?_
    · rw [UInt64.le_iff_toNat_le]
      omega
    · intro last found
      obtain rfl := Option.some.inj (here.symm.trans found)
      rw [UInt64.le_iff_toNat_le]
      omega
    · exact counts_pure (holds next sum)

/-- `JobComplete` goes out at the total. -/
theorem counts_sendJobComplete {complete : JobCompleteV2}
    (here : standing.last = some accounting.total) (holds : done () state standing) :
    Counts accounting standing state (sendFrame (.jobComplete complete)) done := by
  intro world stands
  rw [sendFrame, ensures_bind, ensures_perform]
  refine ⟨⟨stands.last.trans ∘ stands.settled, fun _ _ => stands.last.trans here, (by simp),
    (by simp)⟩, fun reply _ => ?_⟩
  rw [resumeWith_ok, ensures_raise]
  have after : accounting.Stands standing
      (world.1.after (.delivery (.sendManifestV2Frame (.jobComplete complete))) reply,
        world.2 ++ [⟨.delivery (.sendManifestV2Frame (.jobComplete complete)), reply⟩]) :=
    (stands.next rfl fun _ => here).weaken .inl
  cases reply with
  | ok _ => exact ⟨standing, after, holds⟩
  | error _ => exact fun other => absurd other (by simp)

/-- A frame comes in; a `JobComplete` before its time ends the method. -/
theorem counts_recvFrame {next : ManifestV2Frame → EngineProgram State α}
    (stray : ∀ complete, standing.last ≠ some accounting.total →
      ∃ error, error ≠ .arithmeticOverflow ∧
        (next (.jobComplete complete)).runOn state = pure (.error error, state))
    (holds : ∀ frame, accounting.arrives frame →
      (∀ complete, frame = .jobComplete complete → standing.last = some accounting.total) →
      Counts accounting { standing with
        overflowed := standing.overflowed ∨ ∃ block, frame = .entryBlock block ∧ BeyondU64 block }
          state (next frame) post) :
    Counts accounting standing state (recvFrame >>= next) post := by
  intro world stands
  rw [recvFrame, bind_assoc, ensures_bind, ensures_perform]
  refine ⟨⟨stands.last.trans ∘ stands.settled, (by simp), (by simp), (by simp)⟩,
    fun reply arrived => ?_⟩
  rw [resumeWith_ok, ensures_bind, ensures_raise]
  cases reply with
  | error _ => exact fun other => absurd other (by simp)
  | ok frame =>
    rw [show mapErr ManifestV2DataError.core (.ok frame) = .ok frame from rfl, resumeWith_ok]
    by_cases timely : ∀ complete, frame = .jobComplete complete →
      standing.last = some accounting.total
    · refine holds frame (arrived frame rfl) timely _ ((stands.next rfl ?_).weaken ?_)
      · rintro ⟨complete, listed⟩
        obtain ⟨-, same⟩ := Sigma.mk.inj (List.mem_singleton.mp listed)
        exact timely complete (Except.ok.inj (eq_of_heq same)).symm
      · intro overflowed
        obtain earlier | ⟨block, rfl, beyond⟩ := overflowed
        · exact .inl earlier
        · exact .inr beyond
    · push Not at timely
      obtain ⟨complete, rfl, early⟩ := timely
      obtain ⟨error, other, failed⟩ := stray complete early
      unfold Method.Ensures
      rw [failed]
      exact fun overflow => absurd overflow other

end Counts

end Rules

end Envoix.Transfer
