import Envoix.Pairing.Handshake
import Mathlib.Logic.Function.Basic
import Mathlib.Logic.Relation

/-! # Both sides of a control channel agree

Any number of sessions and a broker that announces the roles and methods it likes and carries the
frames it likes.  Under a key from a password that it does not know it can confirm nothing and seal
nothing that no session has.  A confirmation names the context, both messages and the side; a box
names the key, the side and whether it holds a context or a descriptor; and no two sessions say the
same in their key exchanges.  So all that a session accepts comes from one other. -/

namespace Envoix.Pairing

open ByteCodec Fallible IdealCrypto Pake Hmac Sha256 Aead
open Envoix.Invite (Commitment ControlContext)
open Envoix.Rendezvous (BootstrapKind)

/-! ## What confirmations and boxes name -/

theorem Role.confirmLabel_inj {left right : Role} (same : left.confirmLabel = right.confirmLabel) :
    left = right := by
  cases left <;> cases right <;> first | rfl | exact absurd (Buffer.ofText_inj same) (by decide)

theorem Role.contextAad_inj {left right : Role} (same : left.contextAad = right.contextAad) :
    left = right := by
  cases left <;> cases right <;> first | rfl | exact absurd (asBytes_injective same) (by decide)

theorem Role.descriptorAad_inj {left right : Role}
    (same : left.descriptorAad = right.descriptorAad) : left = right := by
  cases left <;> cases right <;> first | rfl | exact absurd (asBytes_injective same) (by decide)

theorem Role.contextAad_ne_descriptorAad (left right : Role) :
    left.contextAad ≠ right.descriptorAad := by
  cases left <;> cases right <;> exact fun same => absurd (asBytes_injective same) (by decide)

theorem transcript_append_inj {context other : ControlContext} {start start' : PakeStart}
    {response response' : PakeResponse} {after after' : Bytes}
    (same : transcript context start response ++ after =
      transcript other start' response' ++ after') :
    context = other ∧ start = start' ∧ response = response' ∧ after = after' := by
  obtain ⟨parts, rest⟩ := framed_append_inj (by rfl) same
  simp only [List.cons.injEq, and_true, true_and] at parts
  obtain ⟨binding, startNonce, responseNonce, startMsg, responseMsg⟩ := parts
  refine ⟨ControlContext.binding_inj binding, ?_, ?_, rest⟩
  · cases start
    cases start'
    simp only [PakeMessage.mk.injEq]
    exact ⟨startNonce, startMsg⟩
  · cases response
    cases response'
    simp only [PakeMessage.mk.injEq]
    exact ⟨responseNonce, responseMsg⟩

section

variable [Pake]

/-- Two sides of one exchange. -/
structure Confirming.Meets (left right : Confirming) : Prop where
  key : left.key = right.key
  role : left.role = right.role.peer
  context : left.context = right.context
  own : left.own = right.peer
  peer : left.peer = right.own

/-- The key names the password and what both have said. -/
theorem Confirming.of_key {left right : Confirming} (same : left.key = right.key) :
    left.password = right.password ∧ exchange left.role.side left.own.msg left.peer.msg =
      exchange right.role.side right.own.msg right.peer.msg := by
  obtain ⟨inputs, exchanges⟩ := Pake.binds left.finished (same ▸ right.finished)
  exact ⟨asBytes_injective (congrArg PakeInput.password inputs), exchanges⟩

/-- Two sessions in one role that hold one key have said the same. -/
theorem Confirming.own_of_key {left right : Confirming} (same : left.key = right.key)
    (role : left.role = right.role) :
    left.own.msg = right.own.msg := by
  obtain ⟨-, exchanges⟩ := Confirming.of_key same
  rw [role] at exchanges
  cases side : right.role.side with
  | a =>
    rw [side] at exchanges
    exact (Prod.mk.inj exchanges).1
  | b =>
    rw [side] at exchanges
    exact (Prod.mk.inj exchanges).2

theorem Confirming.Meets.transcript {left right : Confirming} (meets : left.Meets right) :
    left.transcript = right.transcript := by
  have role := meets.role
  unfold Confirming.transcript
  rw [meets.context, meets.own, meets.peer, role]
  cases right.role <;> rfl

theorem Confirming.transcript_meets {left right : Confirming} {after after' : Bytes}
    (role : left.role = right.role.peer) (key : left.key = right.key)
    (same : left.transcript ++ after = right.transcript ++ after') : left.Meets right := by
  simp only [Confirming.transcript, role] at same
  cases side : right.role with
  | initiator =>
    simp only [side, Role.peer] at same
    obtain ⟨context, peer, own, -⟩ := transcript_append_inj same
    exact { key, role, context, own, peer }
  | responder =>
    simp only [side, Role.peer] at same
    obtain ⟨context, own, peer, -⟩ := transcript_append_inj same
    exact { key, role, context, own, peer }

/-- The transcript of either role frames the same number of parts. -/
theorem Confirming.transcript_eq (self : Confirming) :
    ∃ start response, self.transcript = Pairing.transcript self.context start response := by
  unfold Confirming.transcript
  cases self.role with
  | initiator => exact ⟨_, _, rfl⟩
  | responder => exact ⟨_, _, rfl⟩

variable [Hmac]

theorem verify_eq_ok {key : Key} {text : Bytes} {label : Buffer} {received : Tag} :
    verify key text label received = .ok () ↔ received = proof key text label := by
  rw [verify, reject_eq_ok, not_not]

/-- Whoever made the confirmation that a side has verified is the other side of its exchange. -/
theorem Paired.meets {self : Paired} {other : Confirming} (made : other.proof = self.verified) :
    other.Meets self.toConfirming := by
  obtain ⟨key, text⟩ := Hmac.injective (made.trans (verify_eq_ok.mp self.verifies))
  obtain ⟨_, _, ours⟩ := self.transcript_eq
  obtain ⟨_, _, theirs⟩ := other.transcript_eq
  have labels := text
  rw [ours, theirs] at labels
  obtain ⟨-, -, -, labels⟩ := transcript_append_inj labels
  obtain ⟨label, -⟩ := lenPrefixed_append_inj (congrArg (· ++ []) labels)
  exact Confirming.transcript_meets (Role.confirmLabel_inj label) key text

end

section

variable [Pake] [Aead]

theorem openBytes_sealBytes {key other : Key} {aad same text found : Bytes}
    {random : Option (ByteVector 12)} {box : Buffer}
    (sealed : sealBytes key aad text random = .ok box)
    (opens : openBytes other same box = .ok found) :
    key = other ∧ aad = same ∧ text = found := by
  simp only [sealBytes, bind_eq_ok, okOr_eq_ok] at sealed
  obtain ⟨nonce, -, sealed⟩ := sealed
  split at sealed
  · cases sealed
  · rename_i ciphertext encrypted
    cases sealed
    simp only [openBytes] at opens
    split at opens
    · have decrypted := okOr_eq_ok.mp opens
      have nonceBack : (nonce.toList ++ ciphertext).take 12 = nonce.toList := by
        rw [List.take_append_of_le_length (by rw [nonce.length_toList]),
          List.take_of_length_le (by rw [nonce.length_toList])]
      have boxBack : (nonce.toList ++ ciphertext).drop 12 = ciphertext := by
        rw [List.drop_append_of_le_length (by rw [nonce.length_toList]),
          List.drop_of_length_le (by rw [nonce.length_toList]), List.nil_append]
      simp only [nonceBack, boxBack] at decrypted
      obtain ⟨keys, aads, texts⟩ := Aead.authentic encrypted decrypted
      exact ⟨Aead.deriveKey_injective keys, aads, texts⟩
    · cases opens

/-- A box opens only under its own key and associated data, and holds what was sealed. -/
theorem openJson_sealJson {α β : Type} [Serde α] [Serde β] {key other : Key} {aad same : Bytes}
    {value : α} {found : β} {random : Option (ByteVector 12)} {box : Buffer}
    (sealed : sealJson key aad value random = .ok box)
    (opens : openJson other same box = .ok found) :
    key = other ∧ aad = same ∧ ∃ json, Serde.toVec value = .ok json ∧
      Serde.fromSlice json = .ok found := by
  simp only [sealJson, bind_eq_ok, mapErr_eq_ok] at sealed
  obtain ⟨json, written, sealed⟩ := sealed
  simp only [openJson, bind_eq_ok, mapErr_eq_ok] at opens
  obtain ⟨text, opened, read⟩ := opens
  obtain ⟨keys, aads, rfl⟩ := openBytes_sealBytes sealed opened
  exact ⟨keys, aads, json, written, read⟩

end

/-- Both order the four boxes in the same way. -/
theorem completeControlTranscript_peer (hash : Commitment) (role : Role)
    (myContext peerContext myDescriptor peerDescriptor : Buffer) :
    completeControlTranscript hash role.peer peerContext myContext peerDescriptor myDescriptor =
      completeControlTranscript hash role myContext peerContext myDescriptor peerDescriptor := by
  cases role <;> rfl

/-! ## Sessions -/

inductive ControlError where
  | methodDiffers
  | unreadable
  | pairing (error : PairingError)
deriving DecidableEq

section

variable [Pake] [Hmac] [Aead] [Serde ContextBundle]

inductive ControlFrame where
  | pake (message : PakeMessage)
  | confirm (mac : Tag)
  | sealed (box : Buffer)

variable (T : Type) [Serde (DescriptorBundle T)]

/-- How far a session has come; a session that fails stays where it was. -/
inductive Progress where
  | initiating (pending : InitiatorPending)
  | listening (password : String) (context : ControlContext)
  | confirming (handshake : Confirming)
  | contextSent (sent : ContextSent)
  | authenticated (control : AuthenticatedControl)
  | descriptorSent (sent : DescriptorSent T)
  | paired (pairing : RoomPairing T)

variable {T}

/-- What the system draws for one step. -/
structure Draw where
  nonce : Option Nonce
  scalar : Scalar
  box : Option (ByteVector 12)

namespace Progress

/-- `authenticate_invitation` up to its first frame, with the role and the method of the broker. -/
def start (role : Role) (method : BootstrapKind) (password : String) (context : ControlContext)
    (draw : Draw) :
    Except ControlError (Progress T × List ControlFrame) := do
  reject (method ≠ context.selectedBootstrapMethod) .methodDiffers
  match role with
  | .initiator => do
    let pending ← mapErr .pairing (initiatorStart password context draw.nonce draw.scalar)
    return (.initiating pending, [.pake pending.start])
  | .responder => return (.listening password context, [])

/-- A side that has verified sends its context; a responder confirms first. -/
def confirm (handshake : Confirming) (publicContext : Option Bytes) (mac : Tag) (draw : Draw) :
    Except PairingError (Progress T) × List ControlFrame :=
  match handshake.verify mac with
  | .error error => (.error error, [])
  | .ok verified =>
    let own := match handshake.role with
      | .initiator => []
      | .responder => [.confirm handshake.proof]
    match verified.sealContext publicContext draw.box with
    | .error error => (.error error, own)
    | .ok sent => (.ok (.contextSent sent), own ++ [.sealed sent.contextSealed])

/-- What a frame does, and what is sent then. -/
def hear (publicContext : Option Bytes) (draw : Draw) :
    Progress T → ControlFrame → Except ControlError (Progress T) × List ControlFrame
  | .initiating pending, .pake response =>
    match pending.finish response with
    | .error error => (.error (.pairing error), [])
    | .ok handshake => (.ok (.confirming handshake), [.confirm handshake.proof])
  | .listening password context, .pake start =>
    match responderRespond password context start draw.nonce draw.scalar with
    | .error error => (.error (.pairing error), [])
    | .ok handshake => (.ok (.confirming handshake), [.pake handshake.own])
  | .confirming handshake, .confirm mac =>
    let (result, frames) := confirm handshake publicContext mac draw
    (mapErr .pairing result, frames)
  | .contextSent sent, .sealed box => (mapErr .pairing (.authenticated <$> sent.receive box), [])
  | .descriptorSent sent, .sealed box => (mapErr .pairing (.paired <$> sent.receive box), [])
  -- nothing is read between the two calls, nor after them
  | .authenticated control, _ => (.ok (.authenticated control), [])
  | .paired pairing, _ => (.ok (.paired pairing), [])
  | _, _ => (.error .unreadable, [])

/-- Where a step leads. -/
def after {ε : Type} (old : Progress T) : Except ε (Progress T) → Progress T
  | .error _ => old
  | .ok next => next

/-! What a session has made so far. -/

def pairing : Progress T → Option (RoomPairing T)
  | .paired pairing => some pairing
  | _ => none

def descriptor : Progress T → Option (DescriptorSent T)
  | .descriptorSent sent => some sent
  | .paired pairing => some pairing.toDescriptorSent
  | _ => none

def control : Progress T → Option AuthenticatedControl
  | .authenticated control => some control
  | progress => progress.descriptor.map (·.toAuthenticatedControl)

def context : Progress T → Option ContextSent
  | .contextSent sent => some sent
  | progress => progress.control.map (·.toContextSent)

def handshake : Progress T → Option Confirming
  | .confirming handshake => some handshake
  | progress => progress.context.map (·.toConfirming)

end Progress

structure ControlSession (T : Type) [Serde (DescriptorBundle T)] where
  publicContext : Option Bytes
  progress : Progress T
  error : Option ControlError

def ControlSession.settle (session : ControlSession T) (result : Except ControlError (Progress T)) :
    ControlSession T where
  publicContext := session.publicContext
  progress := session.progress.after result
  error := match result with
    | .error error => some error
    | .ok _ => none

structure Broker (T : Type) [Serde (DescriptorBundle T)] where
  sessions : Nat → Option (ControlSession T)
  sent : List ControlFrame

namespace Broker

def empty : Broker T := { sessions := fun _ => none, sent := [] }

def put (broker : Broker T) (id : Nat) (session : ControlSession T) (frames : List ControlFrame) :
    Broker T where
  sessions := Function.update broker.sessions id (some session)
  sent := frames ++ broker.sent

/-- What a broker that knows some passwords may carry. -/
def Presentable (knows : Bytes → Prop) (broker : Broker T) : ControlFrame → Prop
  | .pake _ => True
  | .confirm mac => Unforged knows (fun key text tag => tag = hmac key text)
    (fun tag => .confirm tag ∈ broker.sent) mac
  | .sealed box =>
    Unforged knows (fun key aad box => ∃ text, openBytes key aad box = .ok text)
      (fun box => .sealed box ∈ broker.sent) box

inductive Step (knows : Bytes → Prop) (broker : Broker T) : Broker T → Prop where
  | starts {id : Nat} {role : Role} {method : BootstrapKind} {password : String}
      {context : ControlContext} {draw : Draw} {progress : Progress T} {frames : List ControlFrame}
      (publicContext : Option Bytes) (new : broker.sessions id = none)
      (begins : Progress.start role method password context draw = .ok (progress, frames)) :
      Step knows broker (broker.put id { publicContext, progress, error := none } frames)
  | hears {id : Nat} {session : ControlSession T} (frame : ControlFrame) (draw : Draw)
      (there : broker.sessions id = some session) (running : session.error = none)
      (presented : broker.Presentable knows frame) :
      Step knows broker (broker.put id
        (session.settle (session.progress.hear session.publicContext draw frame).1)
        (session.progress.hear session.publicContext draw frame).2)
  /-- `exchange_descriptor` is called -/
  | describes {id : Nat} {session : ControlSession T} {control : AuthenticatedControl}
      {sent : DescriptorSent T} {mine : Option T} {random : Option (ByteVector 12)}
      (there : broker.sessions id = some session) (running : session.error = none)
      (authenticated : session.progress = .authenticated control)
      (seals : control.sealDescriptor mine random = .ok sent) :
      Step knows broker (broker.put id { session with progress := .descriptorSent sent }
        [.sealed sent.descriptorSealed])
  /-- the connection fails, or a descriptor cannot be sealed -/
  | fails {id : Nat} {session : ControlSession T} (error : ControlError)
      (there : broker.sessions id = some session) (running : session.error = none) :
      Step knows broker (broker.put id { session with error := some error } [])

def Reachable (knows : Bytes → Prop) (broker : Broker T) : Prop :=
  Relation.ReflTransGen (Step knows) empty broker

/-- No two sessions have drawn the same message of the key exchange. -/
def Fresh (broker : Broker T) : Prop :=
  ∀ id other session found handshake same, broker.sessions id = some session →
    broker.sessions other = some found → session.progress.handshake = some handshake →
    found.progress.handshake = some same → handshake.role = same.role →
    handshake.own.msg = same.own.msg → id = other

end Broker

/-! ## What a step makes and accepts -/

omit [Hmac] [Aead] [Serde ContextBundle] in
theorem Confirming.protected {knows : Bytes → Prop} (self : Confirming)
    (secret : ¬ knows (asBytes self.password)) :
    Protected knows self.key :=
  ⟨_, _, _, _, self.finished, secret⟩

omit [Aead] [Serde ContextBundle] in
theorem Confirming.verify_ok {handshake : Confirming} {mac : Tag} {paired : Paired}
    (verifies : handshake.verify mac = .ok paired) :
    paired.toConfirming = handshake ∧ paired.verified = mac := by
  unfold Confirming.verify at verifies
  split at verifies
  · cases verifies
  · cases verifies
    exact ⟨rfl, rfl⟩

omit [Aead] [Serde ContextBundle] in
theorem Paired.verify_eq (paired : Paired) :
    paired.toConfirming.verify paired.verified = .ok paired := by
  unfold Confirming.verify
  split
  · rename_i error found
    cases paired.verifies.symm.trans found
  · rfl

theorem ContextSent.sealContext_eq (sent : ContextSent) :
    sent.toPaired.sealContext sent.publicContext sent.random = .ok sent := by
  unfold Paired.sealContext
  split
  · rename_i error found
    cases sent.seals.symm.trans found
  · rename_i box found
    cases sent.seals.symm.trans found
    rfl

theorem AuthenticatedControl.receive_eq (control : AuthenticatedControl) :
    control.toContextSent.receive control.peerContextSealed = .ok control := by
  unfold ContextSent.receive
  split
  · rename_i error found
    cases control.opens.symm.trans found
  · rename_i context found
    cases control.opens.symm.trans found
    rfl

theorem DescriptorSent.sealDescriptor_eq (sent : DescriptorSent T) :
    sent.toAuthenticatedControl.sealDescriptor sent.mine sent.descriptorRandom = .ok sent := by
  unfold AuthenticatedControl.sealDescriptor
  split
  · rename_i error found
    cases sent.sealsDescriptor.symm.trans found
  · rename_i box found
    cases sent.sealsDescriptor.symm.trans found
    rfl

theorem RoomPairing.receive_eq (pairing : RoomPairing T) :
    pairing.toDescriptorSent.receive pairing.peerDescriptorSealed = .ok pairing := by
  unfold DescriptorSent.receive
  split
  · rename_i error found
    cases pairing.opensDescriptor.symm.trans found
  · rename_i peer found
    cases pairing.opensDescriptor.symm.trans found
    rfl

theorem Paired.sealContext_ok {paired : Paired} {publicContext : Option Bytes}
    {random : Option (ByteVector 12)} {sent : ContextSent}
    (seals : paired.sealContext publicContext random = .ok sent) : sent.toPaired = paired := by
  unfold Paired.sealContext at seals
  split at seals
  · cases seals
  · cases seals
    rfl

theorem ContextSent.receive_ok {sent : ContextSent} {box : Buffer} {control : AuthenticatedControl}
    (opens : sent.receive box = .ok control) :
    control.toContextSent = sent ∧ control.peerContextSealed = box := by
  unfold ContextSent.receive at opens
  split at opens
  · cases opens
  · cases opens
    exact ⟨rfl, rfl⟩

theorem AuthenticatedControl.sealDescriptor_ok {control : AuthenticatedControl} {mine : Option T}
    {random : Option (ByteVector 12)} {sent : DescriptorSent T}
    (seals : control.sealDescriptor mine random = .ok sent) :
    sent.toAuthenticatedControl = control := by
  unfold AuthenticatedControl.sealDescriptor at seals
  split at seals
  · cases seals
  · cases seals
    rfl

theorem DescriptorSent.receive_ok {sent : DescriptorSent T} {box : Buffer} {pairing : RoomPairing T}
    (opens : sent.receive box = .ok pairing) : pairing.toDescriptorSent = sent ∧
      pairing.peerDescriptorSealed = box := by
  unfold DescriptorSent.receive at opens
  split at opens
  · cases opens
  · cases opens
    exact ⟨rfl, rfl⟩

namespace Progress

/-- Under a password that the broker does not know, whatever a session has accepted was sent. -/
structure Accepted (knows : Bytes → Prop) (sent : List ControlFrame) (progress : Progress T) :
    Prop where
  verified : ∀ context, progress.context = some context → ¬ knows (asBytes context.password) →
    .confirm context.verified ∈ sent
  opened : ∀ control, progress.control = some control → ¬ knows (asBytes control.password) →
    .sealed control.peerContextSealed ∈ sent
  described : ∀ pairing, progress.pairing = some pairing → ¬ knows (asBytes pairing.password) →
    .sealed pairing.peerDescriptorSealed ∈ sent

theorem Accepted.mono {knows : Bytes → Prop} {sent more : List ControlFrame} {progress : Progress T}
    (accepted : progress.Accepted knows sent) (grows : ∀ frame ∈ sent, frame ∈ more) :
      progress.Accepted knows more where
  verified context found secret := grows _ (accepted.verified context found secret)
  opened control found secret := grows _ (accepted.opened control found secret)
  described pairing found secret := grows _ (accepted.described pairing found secret)

/-- Who confirms or seals a frame. -/
def Makes (progress : Progress T) : ControlFrame → Prop
  | .pake _ => True
  | .confirm mac => ∃ handshake, progress.handshake = some handshake ∧ handshake.proof = mac
  | .sealed box => (∃ context, progress.context = some context ∧ context.contextSealed = box) ∨
      ∃ descriptor, progress.descriptor = some descriptor ∧ descriptor.descriptorSealed = box

/-- One step of a session: it forgets nothing that it made, makes what it sends, and accepts only
what was sent. -/
structure Advance (knows : Bytes → Prop) (sent : List ControlFrame) (old new : Progress T)
    (frames : List ControlFrame) :
    Prop where
  keeps : ∀ frame, old.Makes frame → new.Makes frame
  makes : ∀ frame ∈ frames, new.Makes frame
  accepts : old.Accepted knows sent → new.Accepted knows sent

theorem Advance.stays {knows : Bytes → Prop} {sent frames : List ControlFrame}
    {progress : Progress T} (makes : ∀ frame ∈ frames, progress.Makes frame) :
      Advance knows sent progress progress frames where
  keeps _ := id
  makes
  accepts := id

/-- A session that had made nothing. -/
theorem Advance.first {knows : Bytes → Prop} {sent frames : List ControlFrame}
    {old new : Progress T}
    (unmade : old.handshake = none ∧ old.context = none ∧ old.descriptor = none)
    (unaccepting : new.context = none) (makes : ∀ frame ∈ frames, new.Makes frame) :
      Advance knows sent old new frames where
  keeps frame made := by
    cases frame with
    | pake _ => trivial
    | confirm mac =>
      obtain ⟨_, found, -⟩ := made
      cases unmade.1.symm.trans found
    | sealed box =>
      cases made with
      | inl context =>
        obtain ⟨_, found, -⟩ := context
        cases unmade.2.1.symm.trans found
      | inr descriptor =>
        obtain ⟨_, found, -⟩ := descriptor
        cases unmade.2.2.symm.trans found
  makes
  accepts _ := by
    have none : new.control = none := by
      cases new <;> first | rfl | cases unaccepting
    refine ⟨?_, ?_, ?_⟩
    · intro context found
      cases unaccepting.symm.trans found
    · intro control found
      cases none.symm.trans found
    · intro pairing found
      cases new <;> first | (cases found; done) | cases unaccepting

variable {knows : Bytes → Prop} {broker : Broker T}

theorem confirm_advance {handshake : Confirming} {publicContext : Option Bytes} {mac : Tag}
    {draw : Draw} (presented : broker.Presentable knows (.confirm mac)) :
    Advance knows broker.sent (.confirming handshake)
      ((Progress.confirming handshake).after (confirm (T := T) handshake publicContext mac draw).1)
      (confirm (T := T) handshake publicContext mac draw).2 := by
  have ownMade : ∀ frame ∈ (match handshake.role with
      | .initiator => []
      | .responder => [.confirm handshake.proof] : List ControlFrame),
      frame = .confirm handshake.proof := by
    cases handshake.role <;> simp
  unfold confirm
  cases verifies : handshake.verify mac with
  | error error => exact .stays (by simp)
  | ok verified =>
    obtain ⟨same, macIs⟩ := Confirming.verify_ok verifies
    dsimp only
    cases seals : verified.sealContext publicContext draw.box with
    | error error =>
      dsimp only
      refine .stays fun frame there => ?_
      rw [ownMade frame there]
      exact ⟨handshake, rfl, rfl⟩
    | ok sent =>
      have verifiedIs := Paired.sealContext_ok seals
      have handshakeIs : sent.toConfirming = handshake := by rw [verifiedIs, same]
      have madeBefore : (Progress.contextSent sent : Progress T).Makes (.confirm handshake.proof) :=
        ⟨sent.toConfirming, rfl, by rw [handshakeIs]⟩
      dsimp only
      refine ⟨?_, ?_, ?_⟩
      · intro frame made
        cases frame with
        | pake _ => trivial
        | confirm _ =>
          obtain ⟨_, found, rfl⟩ := made
          cases found
          exact madeBefore
        | sealed box =>
          cases made with
          | inl context =>
            obtain ⟨_, found, -⟩ := context
            cases found
          | inr descriptor =>
            obtain ⟨_, found, -⟩ := descriptor
            cases found
      · intro frame there
        cases List.mem_append.mp there with
        | inl own => exact ownMade frame own ▸ madeBefore
        | inr box =>
          rw [List.mem_singleton.mp box]
          exact .inl ⟨sent, rfl, rfl⟩
      · intro _
        refine ⟨?_, ?_, ?_⟩
        · intro context found secret
          cases found
          have macVerified : sent.verified = mac := by rw [verifiedIs, macIs]
          have genuine := verify_eq_ok.mp sent.verifies
          rw [macVerified] at genuine ⊢
          exact presented _ _ (sent.toConfirming.protected secret) genuine
        · intro control found
          cases found
        · intro pairing found
          cases found

omit [Hmac] [Serde ContextBundle] in
theorem opens_text {α : Type} [Serde α] {key : Key} {aad : Bytes} {box : Buffer} {value : α}
    (opens : openJson key aad box = .ok value) : ∃ text, openBytes key aad box = .ok text := by
  simp only [openJson, bind_eq_ok] at opens
  obtain ⟨text, opened, -⟩ := opens
  exact ⟨text, opened⟩

theorem context_advance {sent : ContextSent} {box : Buffer} {control : AuthenticatedControl}
    (presented : broker.Presentable knows (.sealed box)) (opens : sent.receive box = .ok control) :
    Advance knows broker.sent (.contextSent sent : Progress T) (.authenticated control) [] := by
  obtain ⟨rfl, rfl⟩ := ContextSent.receive_ok opens
  refine ⟨fun frame made => by cases frame <;> exact made, by simp, ?_⟩
  intro accepted
  refine ⟨accepted.verified, ?_, ?_⟩
  · intro found same secret
    cases same
    exact presented _ _ (control.toConfirming.protected secret) (opens_text control.opens)
  · intro pairing found
    cases found

theorem describe_advance {control : AuthenticatedControl} {mine : Option T}
    {random : Option (ByteVector 12)} {sent : DescriptorSent T}
    (seals : control.sealDescriptor mine random = .ok sent) :
    Advance knows broker.sent (.authenticated control) (.descriptorSent sent)
      [.sealed sent.descriptorSealed] := by
  obtain rfl := AuthenticatedControl.sealDescriptor_ok seals
  refine ⟨?_, ?_, ?_⟩
  · intro frame made
    cases frame with
    | pake _ => trivial
    | confirm _ => exact made
    | sealed box =>
      cases made with
      | inl context => exact .inl context
      | inr descriptor =>
        obtain ⟨_, found, -⟩ := descriptor
        cases found
  · intro frame there
    rw [List.mem_singleton.mp there]
    exact .inr ⟨sent, rfl, rfl⟩
  · intro accepted
    refine ⟨accepted.verified, accepted.opened, ?_⟩
    intro pairing found
    cases found

theorem descriptor_advance {sent : DescriptorSent T} {box : Buffer} {pairing : RoomPairing T}
    (presented : broker.Presentable knows (.sealed box)) (opens : sent.receive box = .ok pairing) :
    Advance knows broker.sent (.descriptorSent sent) (.paired pairing) [] := by
  obtain ⟨rfl, rfl⟩ := DescriptorSent.receive_ok opens
  refine ⟨fun frame made => by cases frame <;> exact made, by simp, ?_⟩
  intro accepted
  refine ⟨accepted.verified, accepted.opened, ?_⟩
  intro found same secret
  cases same
  exact presented _ _ (pairing.toConfirming.protected secret) (opens_text pairing.opensDescriptor)

theorem after_mapErr {ε ε' : Type} {convert : ε → ε'} {old : Progress T}
    {result : Except ε (Progress T)} :
    old.after (mapErr convert result) = old.after result := by
  cases result <;> rfl

theorem hear_advance {progress : Progress T} {publicContext : Option Bytes} {draw : Draw}
    {frame : ControlFrame} (presented : broker.Presentable knows frame) :
    Advance knows broker.sent progress (progress.after (progress.hear publicContext draw frame).1)
      (progress.hear publicContext draw frame).2 := by
  cases progress with
  | initiating pending =>
    cases frame with
    | pake response =>
      simp only [hear]
      cases pending.finish response with
      | error error => exact .stays (by simp)
      | ok handshake =>
        refine .first ⟨rfl, rfl, rfl⟩ rfl fun frame there => ?_
        rw [List.mem_singleton.mp there]
        exact ⟨handshake, rfl, rfl⟩
    | confirm _ => exact .stays (by simp [hear])
    | sealed _ => exact .stays (by simp [hear])
  | listening password context =>
    cases frame with
    | pake start =>
      simp only [hear]
      cases responderRespond password context start draw.nonce draw.scalar with
      | error error => exact .stays (by simp)
      | ok handshake =>
        refine .first ⟨rfl, rfl, rfl⟩ rfl fun frame there => ?_
        rw [List.mem_singleton.mp there]
        trivial
    | confirm _ => exact .stays (by simp [hear])
    | sealed _ => exact .stays (by simp [hear])
  | confirming handshake =>
    cases frame with
    | pake _ => exact .stays (by simp [hear])
    | confirm mac =>
      simp only [hear, after_mapErr]
      exact confirm_advance presented
    | sealed _ => exact .stays (by simp [hear])
  | contextSent sent =>
    cases frame with
    | pake _ => exact .stays (by simp [hear])
    | confirm _ => exact .stays (by simp [hear])
    | sealed box =>
      simp only [hear]
      cases opens : sent.receive box with
      | error error => exact .stays (by simp)
      | ok control => exact context_advance presented opens
  | authenticated control => exact .stays (by simp [hear])
  | descriptorSent sent =>
    cases frame with
    | pake _ => exact .stays (by simp [hear])
    | confirm _ => exact .stays (by simp [hear])
    | sealed box =>
      simp only [hear]
      cases opens : sent.receive box with
      | error error => exact .stays (by simp)
      | ok pairing => exact descriptor_advance presented opens
  | paired pairing => exact .stays (by simp [hear])

/-! A session that has come far has come through all that is before. -/

theorem handshake_of_context {progress : Progress T} {context : ContextSent}
    (found : progress.context = some context) :
    progress.handshake = some context.toConfirming := by
  cases progress <;> cases found <;> rfl

theorem context_of_control {progress : Progress T} {control : AuthenticatedControl}
    (found : progress.control = some control) : progress.context = some control.toContextSent := by
  cases progress <;> cases found <;> rfl

theorem control_of_descriptor {progress : Progress T} {descriptor : DescriptorSent T}
    (found : progress.descriptor = some descriptor) :
    progress.control = some descriptor.toAuthenticatedControl := by
  cases progress <;> cases found <;> rfl

theorem descriptor_of_pairing {progress : Progress T} {pairing : RoomPairing T}
    (found : progress.pairing = some pairing) :
    progress.descriptor = some pairing.toDescriptorSent := by
  cases progress <;> cases found
  rfl

end Progress

namespace Broker

variable {knows : Bytes → Prop} {broker next : Broker T}

structure Sound (knows : Bytes → Prop) (broker : Broker T) : Prop where
  makers : ∀ frame ∈ broker.sent, ∃ id session, broker.sessions id = some session ∧
    session.progress.Makes frame
  accepted : ∀ id session, broker.sessions id = some session →
    session.progress.Accepted knows broker.sent

theorem Sound.put {id : Nat} {session : ControlSession T} {old : Progress T}
    {frames : List ControlFrame} (sound : broker.Sound knows)
    (advance : Progress.Advance knows broker.sent old session.progress frames)
    (accepts : old.Accepted knows broker.sent)
    (replaced : ∀ found, broker.sessions id = some found → found.progress = old) :
    (broker.put id session frames).Sound knows := by
  have grows : ∀ frame ∈ broker.sent, frame ∈ (broker.put id session frames).sent :=
    fun frame there => List.mem_append_right _ there
  have here : (broker.put id session frames).sessions id = some session := Function.update_self ..
  have elsewhere (other : Nat) (apart : other ≠ id) :
      (broker.put id session frames).sessions other = broker.sessions other :=
        Function.update_of_ne apart ..
  refine ⟨?_, ?_⟩
  · intro frame there
    cases List.mem_append.mp there with
    | inl new => exact ⟨id, session, here, advance.makes frame new⟩
    | inr old =>
      obtain ⟨other, found, foundThere, makes⟩ := sound.makers frame old
      by_cases apart : other = id
      · subst apart
        exact ⟨other, session, here, advance.keeps frame (replaced found foundThere ▸ makes)⟩
      · exact ⟨other, found, (elsewhere other apart).trans foundThere, makes⟩
  · intro other found foundThere
    by_cases apart : other = id
    · subst apart
      cases Option.some.inj (here.symm.trans foundThere)
      exact (advance.accepts accepts).mono grows
    · exact (sound.accepted other found ((elsewhere other apart).symm.trans foundThere)).mono grows

theorem start_advance {role : Role} {method : BootstrapKind} {password : String}
    {context : ControlContext} {draw : Draw} {progress : Progress T} {frames : List ControlFrame}
    (begins : Progress.start role method password context draw = .ok (progress, frames)) :
    Progress.Advance knows broker.sent (.listening password context) progress frames := by
  simp only [Progress.start, bind_eq_ok, exists_unit] at begins
  obtain ⟨-, begins⟩ := begins
  cases role with
  | initiator =>
    simp only [bind_eq_ok, pure_eq, Except.ok.injEq, Prod.mk.injEq] at begins
    obtain ⟨pending, -, rfl, rfl⟩ := begins
    refine .first ⟨rfl, rfl, rfl⟩ rfl fun frame there => ?_
    rw [List.mem_singleton.mp there]
    trivial
  | responder =>
    simp only [pure_eq, Except.ok.injEq, Prod.mk.injEq] at begins
    obtain ⟨rfl, rfl⟩ := begins
    exact .stays (by simp)

theorem Step.sound (step : Step knows broker next) (sound : broker.Sound knows) :
    next.Sound knows := by
  cases step with
  | starts publicContext new begins =>
    refine sound.put (start_advance begins) ⟨?_, ?_, ?_⟩ fun found there => by
      cases new.symm.trans there
    · intro context found
      cases found
    · intro control found
      cases found
    · intro pairing found
      cases found
  | hears frame draw there running presented =>
    refine sound.put (Progress.hear_advance presented)
      (sound.accepted _ _ there) fun found foundThere => ?_
    cases Option.some.inj (there.symm.trans foundThere)
    rfl
  | @describes _ session _ _ _ _ there running authenticated seals =>
    refine sound.put (Progress.describe_advance seals)
      (authenticated ▸ sound.accepted _ _ there) fun found foundThere => ?_
    cases Option.some.inj (there.symm.trans foundThere)
    exact authenticated
  | @fails _ session _ there =>
    have accepted := sound.accepted _ _ there
    refine sound.put (.stays (by simp)) accepted fun found foundThere => ?_
    cases Option.some.inj (there.symm.trans foundThere)
    rfl

theorem Reachable.sound (reachable : Reachable knows broker) : broker.Sound knows := by
  induction reachable with
  | refl => exact ⟨by simp [empty], by simp [empty]⟩
  | tail _ step sound => exact step.sound sound

/-! ### All that a session accepts comes from one other -/

/-- The session that holds the key in the other role. -/
structure Holds (broker : Broker T) (mine : Confirming) (id : Nat) (session : ControlSession T)
    (handshake : Confirming) :
    Prop where
  there : broker.sessions id = some session
  shook : session.progress.handshake = some handshake
  key : handshake.key = mine.key
  role : handshake.role = mine.role.peer

/-- No other session holds the key in that role. -/
theorem Holds.unique {mine handshake same : Confirming} {id other : Nat}
    {session found : ControlSession T} (fresh : broker.Fresh)
    (holds : broker.Holds mine id session handshake) (also : broker.Holds mine other found same) :
    found = session := by
  have keys : same.key = handshake.key := also.key.trans holds.key.symm
  have roles : same.role = handshake.role := also.role.trans holds.role.symm
  have ids :=
    fresh other id found session same handshake also.there holds.there also.shook holds.shook roles
    (Confirming.own_of_key keys roles)
  subst ids
  exact Option.some.inj (also.there.symm.trans holds.there)

theorem Sound.context_from_peer {id other : Nat} {session peer : ControlSession T}
    {control : AuthenticatedControl} {handshake : Confirming} (sound : broker.Sound knows)
    (fresh : broker.Fresh) (there : broker.sessions id = some session)
    (authenticated : session.progress.control = some control)
    (secret : ¬ knows (asBytes control.password))
    (holds : broker.Holds control.toConfirming other peer handshake) :
    ∃ sent, peer.progress.context = some sent ∧ sent.contextSealed = control.peerContextSealed ∧
      sent.publicContext = control.peerPublicContext := by
  obtain ⟨maker, found, foundThere, makes⟩ :=
    sound.makers _ ((sound.accepted id session there).opened control authenticated secret)
  cases makes with
  | inl context =>
    obtain ⟨sent, made, boxIs⟩ := context
    have seals := sent.seals
    rw [boxIs] at seals
    obtain ⟨key, aad, json, written, read⟩ := openJson_sealJson seals control.opens
    have contexts := ContextBundle.mk.inj (Except.ok.inj ((Serde.reads written).symm.trans read))
    have also : broker.Holds control.toConfirming maker found sent.toConfirming :=
      { there := foundThere
        shook := Progress.handshake_of_context made
        key
        role := Role.contextAad_inj aad }
    exact ⟨sent, holds.unique fresh also ▸ made, boxIs, contexts⟩
  | inr descriptor =>
    obtain ⟨sent, made, boxIs⟩ := descriptor
    have seals := sent.sealsDescriptor
    rw [boxIs] at seals
    obtain ⟨-, aad, -⟩ := openJson_sealJson seals control.opens
    exact absurd aad.symm (Role.contextAad_ne_descriptorAad _ _)

theorem Sound.descriptor_from_peer {id other : Nat} {session peer : ControlSession T}
    {pairing : RoomPairing T} {handshake : Confirming} (sound : broker.Sound knows)
    (fresh : broker.Fresh) (there : broker.sessions id = some session)
    (paired : session.progress.pairing = some pairing) (secret : ¬ knows (asBytes pairing.password))
    (holds : broker.Holds pairing.toConfirming other peer handshake) :
    ∃ sent, peer.progress.descriptor = some sent ∧
      sent.descriptorSealed = pairing.peerDescriptorSealed ∧
      sent.mine = pairing.peerDescriptor := by
  obtain ⟨maker, found, foundThere, makes⟩ :=
    sound.makers _ ((sound.accepted id session there).described pairing paired secret)
  cases makes with
  | inl context =>
    obtain ⟨sent, made, boxIs⟩ := context
    have seals := sent.seals
    rw [boxIs] at seals
    obtain ⟨-, aad, -⟩ := openJson_sealJson seals pairing.opensDescriptor
    exact absurd aad (Role.contextAad_ne_descriptorAad _ _)
  | inr descriptor =>
    obtain ⟨sent, made, boxIs⟩ := descriptor
    have seals := sent.sealsDescriptor
    rw [boxIs] at seals
    obtain ⟨key, aad, json, written, read⟩ := openJson_sealJson seals pairing.opensDescriptor
    have descriptors :=
      DescriptorBundle.mk.inj (Except.ok.inj ((Serde.reads written).symm.trans read))
    have also : broker.Holds pairing.toConfirming maker found sent.toConfirming :=
      { there := foundThere
        shook :=
          Progress.handshake_of_context
            (Progress.context_of_control (Progress.control_of_descriptor made))
        key
        role := Role.descriptorAad_inj aad }
    exact ⟨sent, holds.unique fresh also ▸ made, boxIs, descriptors⟩

end Broker

/-- The session that a pairing was made with. -/
structure Agreed (pairing : RoomPairing T) (peer : DescriptorSent T) : Prop where
  password : peer.password = pairing.password
  context : peer.context = pairing.context
  role : peer.role = pairing.role.peer
  publicContext : pairing.peerPublicContext = peer.publicContext
  descriptor : pairing.peerDescriptor = peer.mine

/-- Whatever the broker announces and carries, and whatever other passwords it knows, a session that
returns was paired with one other session, and if that returns too they hold the same. -/
theorem control_plane_agreement [Sha256] {knows : Bytes → Prop} {broker : Broker T}
    (reachable : broker.Reachable knows) (fresh : broker.Fresh) {id : Nat}
    {session : ControlSession T} {pairing : RoomPairing T}
    (there : broker.sessions id = some session) (paired : session.progress = .paired pairing)
    (secret : ¬ knows (asBytes pairing.password)) :
    ∃ other peer sent, broker.sessions other = some peer ∧ peer.progress.descriptor = some sent ∧
      Agreed pairing sent ∧ ∀ theirs, peer.progress = .paired theirs →
        theirs.key = pairing.key ∧
          theirs.controlTranscriptHash = pairing.controlTranscriptHash := by
  have sound := reachable.sound
  have ours : session.progress.pairing = some pairing := by rw [paired]; rfl
  have ourDescriptor := Progress.descriptor_of_pairing ours
  have ourControl := Progress.control_of_descriptor ourDescriptor
  have ourContext := Progress.context_of_control ourControl
  obtain ⟨other, peer, peerThere, handshake, peerHandshake, proves⟩ :=
    sound.makers _ ((sound.accepted id session there).verified _ ourContext secret)
  have meets := Paired.meets proves
  have holds : broker.Holds pairing.toConfirming other peer handshake :=
    { there := peerThere, shook := peerHandshake, key := meets.key, role := meets.role }
  obtain ⟨context, peerContext, contextIs, publicContext⟩ :=
    sound.context_from_peer fresh there ourControl secret holds
  obtain ⟨sent, peerDescriptor, descriptorIs, descriptor⟩ :=
    sound.descriptor_from_peer fresh there ours secret holds
  have sentContext := Progress.context_of_control (Progress.control_of_descriptor peerDescriptor)
  obtain rfl : context = sent.toContextSent := Option.some.inj (peerContext.symm.trans sentContext)
  obtain rfl : handshake = sent.toConfirming :=
    Option.some.inj (peerHandshake.symm.trans (Progress.handshake_of_context sentContext))
  have password := (Confirming.of_key meets.key).1
  refine ⟨other, peer, sent, peerThere, peerDescriptor,
    ⟨password, meets.context, meets.role, publicContext.symm, descriptor.symm⟩, ?_⟩
  intro theirs theirsPaired
  have theirPairing : peer.progress.pairing = some theirs := by rw [theirsPaired]; rfl
  obtain rfl : sent = theirs.toDescriptorSent :=
    Option.some.inj (peerDescriptor.symm.trans (Progress.descriptor_of_pairing theirPairing))
  have held : broker.Holds theirs.toConfirming id session pairing.toConfirming :=
    { there, shook := Progress.handshake_of_context ourContext, key := meets.key.symm
      role := by rw [meets.role, Role.peer_peer] }
  have theirSecret : ¬ knows (asBytes theirs.password) := password ▸ secret
  obtain ⟨_, ourSent, ourContextIs, -⟩ := sound.context_from_peer fresh peerThere
    (Progress.control_of_descriptor peerDescriptor) theirSecret held
  obtain ⟨_, ourSentDescriptor, ourDescriptorIs, -⟩ :=
    sound.descriptor_from_peer fresh peerThere theirPairing theirSecret held
  cases Option.some.inj (ourContext.symm.trans ourSent)
  cases Option.some.inj (ourDescriptor.symm.trans ourSentDescriptor)
  refine ⟨meets.key, congrArg sha256 ?_⟩
  have hashes : theirs.transcriptHash = pairing.transcriptHash := congrArg sha256 meets.transcript
  rw [hashes, meets.role, contextIs, ← ourContextIs, descriptorIs, ← ourDescriptorIs]
  exact completeControlTranscript_peer _ _ _ _ _ _

end

/-! ### Two sessions that pair -/

local instance exampleSha256 : Sha256 := shorteningSha256
local instance examplePake : Pake := namingPake
local instance exampleHmac : Hmac := namingHmac
local instance exampleAead : Aead := namingAead

/-- The two bundles that the sessions write. -/
local instance exampleContexts : Serde ContextBundle where
  toVec
    | ⟨none⟩ => .ok (asBytes "\x7b\"public_context\":null\x7d")
    | ⟨some [7]⟩ => .ok (asBytes "\x7b\"public_context\":[7]\x7d")
    | _ => .error "not needed"
  fromSlice bytes :=
    if bytes = asBytes "\x7b\"public_context\":null\x7d" then .ok ⟨none⟩
    else if bytes = asBytes "\x7b\"public_context\":[7]\x7d" then .ok ⟨some [7]⟩
    else .error "not needed"
  reads := by
    intro value bytes written
    split at written
    · cases written
      rfl
    · cases written
      rfl
    · cases written

local instance exampleDescriptors : Serde (DescriptorBundle String) where
  toVec
    | ⟨some "joiner"⟩ => .ok (asBytes "\x7b\"peer\":\"joiner\"\x7d")
    | ⟨some "creator"⟩ => .ok (asBytes "\x7b\"peer\":\"creator\"\x7d")
    | _ => .error "not needed"
  fromSlice bytes :=
    if bytes = asBytes "\x7b\"peer\":\"joiner\"\x7d" then .ok ⟨some "joiner"⟩
    else if bytes = asBytes "\x7b\"peer\":\"creator\"\x7d" then .ok ⟨some "creator"⟩
    else .error "not needed"
  reads := by
    intro value bytes written
    split at written
    · cases written
      rfl
    · cases written
      rfl
    · cases written

def exampleContext : ControlContext where
  roomId := "700007"
  selectedBootstrapMethod := .roomCode
  creatorTransferRole := .sender
  joinerTransferRole := .receiver
  fits := by decide

def exampleKey : NamingKey :=
  (pakeInput "700007-abcd-1234", sided .a (.zero 32), sided .b (.zero 32))

def exampleJoiner : Confirming where
  role := .initiator
  password := "700007-abcd-1234"
  context := exampleContext
  nonce := .zero 32
  scalar := ByteVector.zero 32
  peer := ⟨.ofVector (ByteVector.zero 32) Buffer.fits_32, sided .b (.zero 32)⟩
  key := exampleKey
  finished := rfl

def exampleCreator : Confirming where
  role := .responder
  password := "700007-abcd-1234"
  context := exampleContext
  nonce := .zero 32
  scalar := ByteVector.zero 32
  peer := exampleJoiner.own
  key := exampleKey
  finished := rfl

def exampleBox {α : Type} [Serde α] (aad : Bytes) (value : α) : Buffer :=
  match sealJson exampleKey aad value (some (.zero 12)) with
  | .ok box => box
  | .error _ => .empty

set_option maxRecDepth 20000 in
def joinerPairing : RoomPairing String where
  toConfirming := exampleJoiner
  verified := exampleCreator.proof
  verifies := verify_eq_ok.mpr rfl
  publicContext := none
  random := some (.zero 12)
  contextSealed := exampleBox joinerContextAad (ContextBundle.mk none)
  seals := by rfl
  peerContextSealed := exampleBox creatorContextAad (ContextBundle.mk (some [7]))
  peerPublicContext := some [7]
  opens := by rfl
  mine := some "joiner"
  descriptorRandom := some (.zero 12)
  descriptorSealed := exampleBox joinerDescriptorAad (DescriptorBundle.mk (some "joiner"))
  sealsDescriptor := by rfl
  peerDescriptorSealed := exampleBox creatorDescriptorAad (DescriptorBundle.mk (some "creator"))
  peerDescriptor := some "creator"
  opensDescriptor := by rfl

set_option maxRecDepth 20000 in
def creatorPairing : RoomPairing String where
  toConfirming := exampleCreator
  verified := exampleJoiner.proof
  verifies := verify_eq_ok.mpr rfl
  publicContext := some [7]
  random := some (.zero 12)
  contextSealed := joinerPairing.peerContextSealed
  seals := by rfl
  peerContextSealed := joinerPairing.contextSealed
  peerPublicContext := none
  opens := by rfl
  mine := some "creator"
  descriptorRandom := some (.zero 12)
  descriptorSealed := joinerPairing.peerDescriptorSealed
  sealsDescriptor := by rfl
  peerDescriptorSealed := joinerPairing.descriptorSealed
  peerDescriptor := some "joiner"
  opensDescriptor := by rfl

/-- What one seals the other opens. -/
theorem pairings_share : joinerPairing.peerContextSealed = creatorPairing.contextSealed ∧
    creatorPairing.peerContextSealed = joinerPairing.contextSealed ∧
    joinerPairing.peerDescriptorSealed = creatorPairing.descriptorSealed ∧
    creatorPairing.peerDescriptorSealed = joinerPairing.descriptorSealed := by
  simp only [creatorPairing, and_self]

def exampleDraw : Draw where
  nonce := some (.zero 32)
  scalar := ByteVector.zero 32
  box := some (.zero 12)

def examplePending : InitiatorPending where
  password := "700007-abcd-1234"
  context := exampleContext
  nonce := .zero 32
  scalar := ByteVector.zero 32

/-- Two sessions and nothing else. -/
def exampleBroker (joiner creator : Progress String) (sent : List ControlFrame) :
    Broker String where
  sessions
    | 0 => some { publicContext := none, progress := joiner, error := none }
    | 1 => some { publicContext := some [7], progress := creator, error := none }
    | _ => none
  sent

theorem exampleBroker_joiner (joiner creator next : Progress String)
    (sent frames : List ControlFrame) :
    (exampleBroker joiner creator sent).put 0
      { publicContext := none, progress := next, error := none } frames =
      exampleBroker next creator (frames ++ sent) := by
  simp only [Broker.put, exampleBroker, Broker.mk.injEq, and_true]
  funext id
  match id with
  | 0 => rfl
  | 1 => rfl
  | _ + 2 => rfl

theorem exampleBroker_creator (joiner creator next : Progress String)
    (sent frames : List ControlFrame) :
    (exampleBroker joiner creator sent).put 1
      { publicContext := some [7], progress := next, error := none } frames =
      exampleBroker joiner next (frames ++ sent) := by
  simp only [Broker.put, exampleBroker, Broker.mk.injEq, and_true]
  funext id
  match id with
  | 0 => rfl
  | 1 => rfl
  | _ + 2 => rfl

/-- The broker knows all other passwords. -/
def knowsOthers (password : Bytes) : Prop := password ≠ asBytes "700007-abcd-1234"

theorem joiner_hears {joiner creator next : Progress String} {sent frames : List ControlFrame}
    {frame : ControlFrame} (reachable : (exampleBroker joiner creator sent).Reachable knowsOthers)
    (there : frame ∈ sent) (hears : joiner.hear none exampleDraw frame = (.ok next, frames)) :
    (exampleBroker next creator (frames ++ sent)).Reachable knowsOthers := by
  have presented : (exampleBroker joiner creator sent).Presentable knowsOthers frame := by
    cases frame with
    | pake _ => trivial
    | confirm _ => exact fun _ _ _ _ => there
    | sealed _ => exact fun _ _ _ _ => there
  have step :=
    reachable.tail
      (.hears frame exampleDraw (show (exampleBroker joiner creator sent).sessions 0 =
        some ⟨none, joiner, none⟩ from rfl) rfl presented)
  rw [hears] at step
  exact exampleBroker_joiner joiner creator next sent frames ▸ step

theorem creator_hears {joiner creator next : Progress String} {sent frames : List ControlFrame}
    {frame : ControlFrame} (reachable : (exampleBroker joiner creator sent).Reachable knowsOthers)
    (there : frame ∈ sent)
    (hears : creator.hear (some [7]) exampleDraw frame = (.ok next, frames)) :
    (exampleBroker joiner next (frames ++ sent)).Reachable knowsOthers := by
  have presented : (exampleBroker joiner creator sent).Presentable knowsOthers frame := by
    cases frame with
    | pake _ => trivial
    | confirm _ => exact fun _ _ _ _ => there
    | sealed _ => exact fun _ _ _ _ => there
  have step :=
    reachable.tail
      (.hears frame exampleDraw (show (exampleBroker joiner creator sent).sessions 1 =
        some ⟨some [7], creator, none⟩ from rfl) rfl presented)
  rw [hears] at step
  exact exampleBroker_creator joiner creator next sent frames ▸ step

theorem exampleBroker_started :
    (exampleBroker (.initiating examplePending) (.listening "700007-abcd-1234" exampleContext)
      [.pake examplePending.start]).Reachable knowsOthers := by
  have joins :
      Progress.start (T := String) .initiator .roomCode "700007-abcd-1234" exampleContext
        exampleDraw =
      .ok (.initiating examplePending, [.pake examplePending.start]) := rfl
  have creates :
      Progress.start (T := String) .responder .roomCode "700007-abcd-1234" exampleContext
        exampleDraw =
      .ok (.listening "700007-abcd-1234" exampleContext, []) := rfl
  have first : Broker.Step knowsOthers Broker.empty
      (Broker.empty.put 0 ⟨none, .initiating examplePending, none⟩ [.pake examplePending.start]) :=
    .starts none rfl joins
  have second := (Relation.ReflTransGen.single first).tail
    (.starts (some [7]) (show (Broker.put _ 0 _ _).sessions 1 = none from rfl) creates)
  have same :
    (Broker.empty.put 0 ⟨none, .initiating examplePending, none⟩ [.pake examplePending.start]).put 1
      ⟨some [7], .listening "700007-abcd-1234" exampleContext, none⟩ [] =
      exampleBroker (.initiating examplePending) (.listening "700007-abcd-1234" exampleContext)
        [.pake examplePending.start] := by
    simp only [Broker.put, Broker.empty, exampleBroker, Broker.mk.injEq]
    refine ⟨?_, rfl⟩
    funext id
    match id with
    | 0 => rfl
    | 1 => rfl
    | _ + 2 => rfl
  exact same ▸ second

/-- Both have returned. -/
def pairedBroker : Broker String :=
  exampleBroker (.paired joinerPairing) (.paired creatorPairing)
    [.sealed creatorPairing.descriptorSealed, .sealed joinerPairing.descriptorSealed,
      .sealed joinerPairing.contextSealed, .confirm exampleCreator.proof,
      .sealed creatorPairing.contextSealed, .confirm exampleJoiner.proof, .pake exampleCreator.own,
      .pake examplePending.start]

theorem joiner_verifies :
    (Progress.confirming exampleJoiner : Progress String).hear none exampleDraw
    (.confirm exampleCreator.proof) = (.ok (.contextSent joinerPairing.toContextSent),
      [.sealed joinerPairing.contextSealed]) := by
  have verifies : exampleJoiner.verify exampleCreator.proof = .ok joinerPairing.toPaired :=
    joinerPairing.verify_eq
  have seals : joinerPairing.toPaired.sealContext none exampleDraw.box =
    .ok joinerPairing.toContextSent :=
    joinerPairing.sealContext_eq
  simp only [Progress.hear, Progress.confirm, verifies, seals]
  rfl

theorem creator_verifies :
    (Progress.confirming exampleCreator : Progress String).hear (some [7]) exampleDraw
    (.confirm exampleJoiner.proof) = (.ok (.contextSent creatorPairing.toContextSent),
      [.confirm exampleCreator.proof, .sealed creatorPairing.contextSealed]) := by
  have verifies : exampleCreator.verify exampleJoiner.proof = .ok creatorPairing.toPaired :=
    creatorPairing.verify_eq
  have seals : creatorPairing.toPaired.sealContext (some [7]) exampleDraw.box =
    .ok creatorPairing.toContextSent :=
    creatorPairing.sealContext_eq
  simp only [Progress.hear, Progress.confirm, verifies, seals]
  rfl

theorem joiner_describes {creator : Progress String} {sent : List ControlFrame}
    (reachable :
      (exampleBroker (.authenticated joinerPairing.toAuthenticatedControl) creator sent).Reachable
        knowsOthers) :
    (exampleBroker (.descriptorSent joinerPairing.toDescriptorSent) creator
      (.sealed joinerPairing.descriptorSealed :: sent)).Reachable knowsOthers := by
  have step := reachable.tail (.describes
    (show (exampleBroker _ creator sent).sessions 0 =
      some ⟨none, .authenticated joinerPairing.toAuthenticatedControl, none⟩ from rfl)
    rfl rfl joinerPairing.sealDescriptor_eq)
  rw [exampleBroker_joiner] at step
  exact step

theorem creator_describes {joiner : Progress String} {sent : List ControlFrame}
    (reachable :
      (exampleBroker joiner (.authenticated creatorPairing.toAuthenticatedControl) sent).Reachable
        knowsOthers) :
    (exampleBroker joiner (.descriptorSent creatorPairing.toDescriptorSent)
      (.sealed creatorPairing.descriptorSealed :: sent)).Reachable knowsOthers := by
  have step := reachable.tail (.describes
    (show (exampleBroker joiner _ sent).sessions 1 =
      some ⟨some [7], .authenticated creatorPairing.toAuthenticatedControl, none⟩ from rfl)
    rfl rfl creatorPairing.sealDescriptor_eq)
  rw [exampleBroker_creator] at step
  exact step

theorem pairedBroker_reachable : pairedBroker.Reachable knowsOthers := by
  have responds :
    (Progress.listening "700007-abcd-1234" exampleContext : Progress String).hear
      (some [7]) exampleDraw
      (.pake examplePending.start) =
        (.ok (.confirming exampleCreator), [.pake exampleCreator.own]) := rfl
  have confirms : (Progress.initiating examplePending : Progress String).hear none exampleDraw
      (.pake exampleCreator.own) =
        (.ok (.confirming exampleJoiner), [.confirm exampleJoiner.proof]) := rfl
  have opens (sent : ContextSent) (control : AuthenticatedControl) (publicContext : Option Bytes)
    (box : Buffer)
      (same : control.toContextSent = sent) (boxIs : control.peerContextSealed = box) :
      (Progress.contextSent sent : Progress String).hear publicContext exampleDraw (.sealed box) =
        (.ok (.authenticated control), []) := by
    subst same boxIs
    simp only [Progress.hear, control.receive_eq]
    rfl
  have pairs (sent : DescriptorSent String) (pairing : RoomPairing String)
    (publicContext : Option Bytes) (box : Buffer)
      (same : pairing.toDescriptorSent = sent) (boxIs : pairing.peerDescriptorSealed = box) :
      (Progress.descriptorSent sent).hear publicContext exampleDraw (.sealed box) =
          (.ok (.paired pairing), []) := by
    subst same boxIs
    simp only [Progress.hear, pairing.receive_eq]
    rfl
  have responded := creator_hears exampleBroker_started (.head _) responds
  have confirmed := joiner_hears responded (.head _) confirms
  have creatorSent := creator_hears confirmed (.head _) creator_verifies
  have joinerSent := joiner_hears creatorSent (.head _) joiner_verifies
  have joinerOpened := joiner_hears joinerSent (.tail _ (.tail _ (.head _)))
    (opens _ joinerPairing.toAuthenticatedControl none _ rfl pairings_share.1)
  have creatorOpened := creator_hears joinerOpened (.head _) 
    (opens _ creatorPairing.toAuthenticatedControl (some [7]) _ rfl pairings_share.2.1)
  have described := creator_describes (joiner_describes creatorOpened)
  have joinerPaired :=
    joiner_hears described (.head _) (pairs _ joinerPairing none _ rfl pairings_share.2.2.1)
  exact creator_hears joinerPaired (.tail _ (.head _))
    (pairs _ creatorPairing (some [7]) _ rfl pairings_share.2.2.2)

theorem pairedBroker_fresh : pairedBroker.Fresh := by
  intro id other session found handshake same there foundThere shook foundShook roles _
  match id, other with
  | 0, 0 => rfl
  | 1, 1 => rfl
  | 0, 1 =>
    cases there
    cases foundThere
    cases shook
    cases foundShook
    cases roles
  | 1, 0 =>
    cases there
    cases foundThere
    cases shook
    cases foundShook
    cases roles
  | _ + 2, _ => cases there
  | _, _ + 2 => cases foundThere

theorem control_plane_agreement_rooms : pairedBroker.Reachable knowsOthers ∧ pairedBroker.Fresh ∧
    ∃ other peer sent, pairedBroker.sessions other = some peer ∧
      peer.progress.descriptor = some sent ∧ Agreed joinerPairing sent ∧
        ∀ theirs, peer.progress = .paired theirs →
        theirs.key = joinerPairing.key ∧
          theirs.controlTranscriptHash = joinerPairing.controlTranscriptHash :=
  ⟨pairedBroker_reachable, pairedBroker_fresh,
    control_plane_agreement pairedBroker_reachable pairedBroker_fresh
      (show pairedBroker.sessions 0 = some ⟨none, .paired joinerPairing, none⟩ from rfl) rfl
        (not_not_intro rfl)⟩

end Envoix.Pairing
