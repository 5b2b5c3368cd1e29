import Envoix.Auth.Authentication
import Mathlib.Data.Multiset.Basic
import Mathlib.Logic.Relation

/-! # Both sides of an authenticated connection agree

Any number of senders and receivers and an attacker who owns the network: it hears every frame and
presents any frame to any run, but a confirmation under a key that it does not know only after some
run has sent it.  What is confirmed names the side, both nonces, messages, consents and
contributions, and the key names the password, so a confirmation is accepted only from the right
run. -/

namespace Envoix.Auth

open ByteCodec Fallible IdealCrypto Pake Hmac
open Envoix.Room (CoreError)

/-! ## What a confirmation names -/

theorem contributionBytes_inj {left right : Option Nonce}
    (same : contributionBytes left = contributionBytes right) :
    left = right := by
  have filled (nonce : Nonce) : nonce.buffer ≠ .empty := by
    intro none
    have length := congrArg (fun buffer => buffer.bytes.length) none
    have full : nonce.buffer.bytes.length = 32 := nonce.length_toList
    exact absurd (full.symm.trans length) (by decide)
  cases left with
  | none =>
    cases right with
    | none => rfl
    | some nonce => exact absurd same.symm (filled nonce)
  | some nonce =>
    cases right with
    | none => exact absurd same (filled nonce)
    | some other => exact congrArg some (@Buffer.ofVector_inj _ _ _ (by decide) same)

theorem consentByte_inj {left right : Bool} (same : consentByte left = consentByte right) :
    left = right := by
  cases left <;> cases right <;> first | rfl | cases same

theorem confirmationText_inj {left right : ConfirmationTranscript} {labelLeft labelRight : Buffer}
    {senderLeft senderRight receiverLeft receiverRight : Option Nonce}
    (same : confirmationText left labelLeft senderLeft receiverLeft =
      confirmationText right labelRight senderRight receiverRight) :
    left = right ∧ labelLeft = labelRight ∧ senderLeft = senderRight ∧
      receiverLeft = receiverRight := by
  simp only [confirmationText, List.append_assoc] at same
  obtain ⟨domain, rest⟩ := framed_append_inj (by rfl) same
  obtain ⟨-, rest⟩ := List.append_inj rest (by rfl)
  obtain ⟨parts, rest⟩ := framed_append_inj (by rfl) rest
  obtain ⟨consents, rest⟩ := List.append_inj rest (by rfl)
  rw [← List.append_nil (framed [labelLeft, _, _]), ← List.append_nil (framed [labelRight, _, _])]
    at rest
  obtain ⟨labels, -⟩ := framed_append_inj (by rfl) rest
  simp only [List.cons.injEq, and_true, true_and] at domain parts consents labels
  obtain ⟨senderNonce, receiverNonce, senderMessage, receiverMessage, exporter, binding⟩ := parts
  refine ⟨?_, labels.1, contributionBytes_inj labels.2.1, contributionBytes_inj labels.2.2⟩
  cases left
  cases right
  simp only [ConfirmationTranscript.mk.injEq]
  exact ⟨senderNonce, receiverNonce, senderMessage, receiverMessage, exporter, domain, binding,
    consentByte_inj consents.1, consentByte_inj consents.2⟩

theorem labels_differ : senderConfirmLabel ≠ receiverConfirmLabel := by
  intro same
  have texts := Buffer.ofText_inj same
  exact absurd texts (by decide)

section

variable [Pake] [Hmac]

theorem confirmationProof_inj {key other : Key} {left right : ConfirmationTranscript}
    {labelLeft labelRight : Buffer}
    {senderLeft senderRight receiverLeft receiverRight : Option Nonce}
    (same : confirmationProof key left labelLeft senderLeft receiverLeft =
      confirmationProof other right labelRight senderRight receiverRight) :
    key = other ∧ left = right ∧ labelLeft = labelRight ∧ senderLeft = senderRight ∧
      receiverLeft = receiverRight := by
  obtain ⟨keys, texts⟩ := Hmac.injective same
  exact ⟨keys, confirmationText_inj texts⟩

theorem core_eq_ok {α : Type} {result : Except CoreError α} {value : α} : core result = .ok value ↔
    result = .ok value :=
  mapErr_eq_ok

theorem verifyConfirmation_eq_ok {key : Key} {transcript : ConfirmationTranscript} {label : Buffer}
    {proof : Tag} {sender receiver : Option Nonce} :
    verifyConfirmation key transcript label proof sender receiver = .ok () ↔
      proof = confirmationProof key transcript label sender receiver := by
  rw [verifyConfirmation, reject_eq_ok, not_not]

omit [Hmac] in
theorem SenderConfirming.protected {knows : Bytes → Prop} {opened : SenderOpened}
    (confirming : SenderConfirming opened) (secret : ¬ knows (asBytes opened.profile.password)) :
    Protected knows confirming.sharedKey :=
  ⟨_, _, _, _, confirming.finished, secret⟩

omit [Hmac] in
theorem ReceiverResponding.protected {knows : Bytes → Prop} {opened : ReceiverOpened}
    (responding : ReceiverResponding opened) (secret : ¬ knows (asBytes opened.profile.password)) :
    Protected knows responding.sharedKey :=
  ⟨_, _, _, _, responding.finished, secret⟩

end

/-! ## Runs and the attacker -/

section

variable [Pake] [Hmac] [Sha256]

structure SenderRun where
  opened : SenderOpened
  confirming : Option (SenderConfirming opened)
  result : Option (Except AuthError AuthenticationOutcome)

structure ReceiverRun where
  opened : ReceiverOpened
  responding : Option (ReceiverResponding opened)
  confirmed : Option (ReceiverConfirmed opened)
  result : Option (Except AuthError AuthenticationOutcome)

/-- A sender gets a frame, and what it sends then. -/
def SenderRun.hear (run : SenderRun) (frame : AuthFrame) (random : Except String Nonce) :
    SenderRun × List AuthFrame :=
  match run.confirming with
  | none =>
    match run.opened.receive frame random with
    | .error error => ({ run with result := some (.error error) }, [])
    | .ok confirming => ({ run with confirming := some confirming }, [confirming.confirm])
  | some confirming => ({ run with result := some (confirming.receive frame) }, [])

def ReceiverRun.hear (run : ReceiverRun) (frame : AuthFrame) (random : Except String Nonce)
    (scalar : Scalar) :
    ReceiverRun × List AuthFrame :=
  match run.responding with
  | none =>
    match run.opened.receive frame random scalar with
    | .error error => ({ run with result := some (.error error) }, [])
    | .ok (answer, .error error) => ({ run with result := some (.error error) }, [answer])
    | .ok (answer, .ok responding) => ({ run with responding := some responding }, [answer])
  | some responding =>
    match responding.receive frame random with
    | .error error => ({ run with result := some (.error error) }, [])
    | .ok confirmed => ({ run with confirmed := some confirmed }, [confirmed.confirm])

structure World where
  senders : Multiset SenderRun
  receivers : Multiset ReceiverRun
  sent : List AuthFrame

namespace World

/-- Some run has sent this confirmation. -/
def Made (world : World) (proof : Tag) : Prop :=
  ∃ contribution, .spake2Confirm proof contribution ∈ world.sent

/-- What an attacker who knows some passwords may present. -/
def Presentable (knows : Bytes → Prop) (world : World) : AuthFrame → Prop
  | .spake2Confirm proof _ =>
    Unforged knows (fun key text tag => tag = hmac key text) world.Made proof
  | _ => True

inductive Step (knows : Bytes → Prop) (world : World) : World → Prop where
  | opensSender {config : PairingConfig} {consent : Bool}
      {exported : Except CoreError (ByteVector 32)} {random : Except String Nonce} {scalar : Scalar}
      {opened : SenderOpened}
      (opens : openSender config consent exported random scalar = .ok opened) :
      Step knows world { world with
        senders := { opened, confirming := none, result := none } ::ₘ world.senders
        sent := opened.start :: world.sent }
  | opensReceiver {config : PairingConfig} {consent : Bool}
      {exported : Except CoreError (ByteVector 32)} {opened : ReceiverOpened}
      (opens : openReceiver config consent exported = .ok opened) :
      Step knows world { world with
        receivers :=
          { opened, responding := none, confirmed := none, result := none } ::ₘ world.receivers }
  | senderHears {run : SenderRun} {others : Multiset SenderRun} (frame : AuthFrame)
      (random : Except String Nonce) (there : world.senders = run ::ₘ others)
      (running : run.result = none) (presented : world.Presentable knows frame) :
      Step knows world { world with
        senders := (run.hear frame random).1 ::ₘ others
        sent := (run.hear frame random).2 ++ world.sent }
  | receiverHears {run : ReceiverRun} {others : Multiset ReceiverRun} (frame : AuthFrame)
      (random : Except String Nonce) (scalar : Scalar) (there : world.receivers = run ::ₘ others)
      (running : run.result = none) (unconfirmed : run.confirmed = none)
      (presented : world.Presentable knows frame) :
      Step knows world { world with
        receivers := (run.hear frame random scalar).1 ::ₘ others
        sent := (run.hear frame random scalar).2 ++ world.sent }
  /-- the confirmation of a receiver has been handed over -/
  | receiverReturns {run : ReceiverRun} {others : Multiset ReceiverRun}
      {confirmed : ReceiverConfirmed run.opened} (there : world.receivers = run ::ₘ others)
      (running : run.result = none) (confirms : run.confirmed = some confirmed) :
      Step knows world { world with
        receivers := { run with result := some (.ok confirmed.outcome) } ::ₘ others }
  /-- the connection fails -/
  | senderFails {run : SenderRun} {others : Multiset SenderRun} (error : AuthError)
      (there : world.senders = run ::ₘ others) (running : run.result = none) :
      Step knows world { world with
        senders := { run with result := some (.error error) } ::ₘ others }
  | receiverFails {run : ReceiverRun} {others : Multiset ReceiverRun} (error : AuthError)
      (there : world.receivers = run ::ₘ others) (running : run.result = none) :
      Step knows world { world with
        receivers := { run with result := some (.error error) } ::ₘ others }

def empty : World := { senders := 0, receivers := 0, sent := [] }

def Reachable (knows : Bytes → Prop) (world : World) : Prop :=
  Relation.ReflTransGen (Step knows) empty world

end World

/-! ## What runs have made and seen -/

/-- A sender accepts the confirmation of a receiver and no other frame. -/
theorem SenderConfirming.receive_ok {opened : SenderOpened} {confirming : SenderConfirming opened}
    {frame : AuthFrame} {outcome : AuthenticationOutcome}
    (accepted : confirming.receive frame = .ok outcome) :
    ∃ written contribution, outcome = confirming.outcome contribution ∧
      frame = .spake2Confirm
        (confirmationProof confirming.sharedKey confirming.transcript receiverConfirmLabel
        confirming.contribution contribution) written := by
  cases frame with
  | spake2Start _ _ _ _ _ => cases accepted
  | spake2Message _ _ _ => cases accepted
  | spake2Confirm proof written =>
    simp only [receive, bind_eq_ok, core_eq_ok, exists_unit, verifyConfirmation_eq_ok, pure_eq,
      Except.ok.injEq] at accepted
    obtain ⟨contribution, -, genuine, same⟩ := accepted
    exact ⟨written, contribution, same.symm, by rw [genuine]⟩

omit [Sha256] in
/-- A receiver accepts the confirmation of a sender and no other frame. -/
theorem ReceiverResponding.receive_ok {opened : ReceiverOpened}
    {responding : ReceiverResponding opened} {frame : AuthFrame} {random : Except String Nonce}
    {confirmed : ReceiverConfirmed opened}
    (accepted : responding.receive frame random = .ok confirmed) :
    ∃ written, frame = .spake2Confirm confirmed.verified written := by
  cases frame with
  | spake2Start _ _ _ _ _ => cases accepted
  | spake2Message _ _ _ => cases accepted
  | spake2Confirm proof written =>
    simp only [receive, bind_eq_ok, core_eq_ok] at accepted
    obtain ⟨contribution, -, rest⟩ := accepted
    split at rest
    · cases rest
    · simp only [bind_eq_ok, core_eq_ok, pure_eq, Except.ok.injEq] at rest
      obtain ⟨own, -, same⟩ := rest
      subst same
      exact ⟨written, rfl⟩

/-- The confirmation of the right receiver is accepted. -/
theorem SenderConfirming.receive_genuine {opened : SenderOpened}
    {confirming : SenderConfirming opened} {proof : Tag} {written : Option Buffer}
    {contribution : Option Nonce}
    (valid : validateRememberContribution confirming.mutualRemember written = .ok contribution)
    (verifies : verifyConfirmation confirming.sharedKey confirming.transcript
      receiverConfirmLabel proof
      confirming.contribution contribution = .ok ()) :
    confirming.receive (.spake2Confirm proof written) = .ok (confirming.outcome contribution) := by
  simp only [receive, bind_eq_ok, core_eq_ok, exists_unit, pure_eq, Except.ok.injEq]
  exact ⟨contribution, valid, verifies, rfl⟩

omit [Sha256] in
/-- The confirmation of the right sender is accepted. -/
theorem ReceiverResponding.receive_genuine {opened : ReceiverOpened}
    {responding : ReceiverResponding opened} {proof : Tag} {written : Option Buffer}
    {contribution own : Option Nonce} {random : Except String Nonce}
    (valid : validateRememberContribution responding.mutualRemember written = .ok contribution)
    (verifies : verifyConfirmation responding.sharedKey responding.transcript senderConfirmLabel
      proof contribution none =
      .ok ())
    (drawn : (if responding.mutualRemember then some <$> randomNonce random else .ok none) =
      .ok own) :
    responding.receive (.spake2Confirm proof written) random =
      .ok { responding, verified := proof, senderContribution := contribution,
            receiverContribution := own, verifies } := by
  simp only [receive, bind_eq_ok, core_eq_ok]
  refine ⟨contribution, valid, ?_⟩
  split
  · rename_i error found
    rw [verifies] at found
    cases found
  · simp only [bind_eq_ok, core_eq_ok, pure_eq, Except.ok.injEq]
    exact ⟨own, drawn, rfl⟩

/-- What a sender that returned has accepted somebody made. -/
def SenderRun.Sound (knows : Bytes → Prop) (made : Tag → Prop) (run : SenderRun) : Prop :=
  ∀ outcome, run.result = some (.ok outcome) →
    ∃ confirming proof written, run.confirming = some confirming ∧
    confirming.receive (.spake2Confirm proof written) = .ok outcome ∧
    (¬ knows (asBytes run.opened.profile.password) → made proof)

/-- What a receiver that confirms has accepted somebody made, and it returns nothing else. -/
structure ReceiverRun.Sound (knows : Bytes → Prop) (made : Tag → Prop) (run : ReceiverRun) :
    Prop where
  accepted : ∀ confirmed, run.confirmed = some confirmed →
    ¬ knows (asBytes run.opened.profile.password) → made confirmed.verified
  returned : ∀ outcome, run.result = some (.ok outcome) →
    ∃ confirmed, run.confirmed = some confirmed ∧
    outcome = confirmed.outcome

theorem SenderRun.Sound.mono {knows : Bytes → Prop} {made more : Tag → Prop} {run : SenderRun}
    (sound : run.Sound knows made) (grows : ∀ proof, made proof → more proof) :
      run.Sound knows more := by
  intro outcome returned
  obtain ⟨confirming, proof, written, confirms, accepted, genuine⟩ := sound outcome returned
  exact ⟨confirming, proof, written, confirms, accepted, fun secret => grows _ (genuine secret)⟩

theorem ReceiverRun.Sound.mono {knows : Bytes → Prop} {made more : Tag → Prop} {run : ReceiverRun}
    (sound : run.Sound knows made) (grows : ∀ proof, made proof → more proof) :
      run.Sound knows more :=
  ⟨fun confirmed confirms secret => grows _ (sound.accepted confirmed confirms secret),
    sound.returned⟩

def SenderRun.Makes (run : SenderRun) (proof : Tag) : Prop :=
  ∃ confirming, run.confirming = some confirming ∧
  confirming.proof = proof

def ReceiverRun.Makes (run : ReceiverRun) (proof : Tag) : Prop :=
  ∃ confirmed, run.confirmed = some confirmed ∧
  confirmed.proof = proof

/-- A step of a sender forgets no confirmation, and what it sends it makes. -/
theorem SenderRun.hear_makes {run : SenderRun} {frame : AuthFrame} {random : Except String Nonce}
    {proof : Tag} :
    (run.Makes proof → (run.hear frame random).1.Makes proof) ∧
      ∀ written, .spake2Confirm proof written ∈ (run.hear frame random).2 →
        (run.hear frame random).1.Makes proof := by
  obtain ⟨opened, confirming, result⟩ := run
  cases confirming with
  | none =>
    simp only [hear]
    cases opened.receive frame random with
    | error error => exact ⟨id, by simp⟩
    | ok confirming =>
      refine ⟨?_, ?_⟩
      · intro makes
        obtain ⟨_, absent, -⟩ := makes
        cases absent
      · intro written there
        simp only [SenderConfirming.confirm, List.mem_singleton, AuthFrame.spake2Confirm.injEq]
          at there
        exact ⟨confirming, rfl, there.1.symm⟩
  | some confirming => exact ⟨id, by simp [hear]⟩

omit [Sha256] in
theorem ReceiverOpened.receive_answer {opened : ReceiverOpened} {frame answer : AuthFrame}
    {random : Except String Nonce} {scalar : Scalar}
    {responding : Except AuthError (ReceiverResponding opened)}
    (received : opened.receive frame random scalar = .ok (answer, responding)) :
    ∃ nonce message consent, answer = .spake2Message nonce message consent := by
  cases frame with
  | spake2Message _ _ _ => cases received
  | spake2Confirm _ _ => cases received
  | spake2Start _ _ _ _ _ =>
    simp only [receive, bind_eq_ok, core_eq_ok, exists_unit, pure_eq, Except.ok.injEq,
      Prod.mk.injEq] at received
    obtain ⟨-, nonce, -, same, -⟩ := received
    exact ⟨_, _, _, same.symm⟩

omit [Sha256] in
theorem ReceiverRun.hear_makes {run : ReceiverRun} {frame : AuthFrame}
    {random : Except String Nonce} {scalar : Scalar} {proof : Tag}
    (unconfirmed : run.confirmed = none) :
    (run.Makes proof → (run.hear frame random scalar).1.Makes proof) ∧
      ∀ written, .spake2Confirm proof written ∈ (run.hear frame random scalar).2 →
        (run.hear frame random scalar).1.Makes proof := by
  obtain ⟨opened, responding, confirmed, result⟩ := run
  have absent : confirmed = none := unconfirmed
  subst absent
  refine ⟨?_, ?_⟩
  · intro makes
    obtain ⟨_, absent, -⟩ := makes
    cases absent
  · cases responding with
    | none =>
      simp only [hear]
      cases received : opened.receive frame random scalar with
      | error error => simp
      | ok answered =>
        obtain ⟨answer, responding⟩ := answered
        obtain ⟨nonce, message, consent, same⟩ := ReceiverOpened.receive_answer received
        subst same
        cases responding with
        | error error => simp
        | ok responding => simp
    | some responding =>
      simp only [hear]
      cases responding.receive frame random with
      | error error => simp
      | ok confirmed =>
        intro written there
        simp only [ReceiverConfirmed.confirm, List.mem_singleton, AuthFrame.spake2Confirm.injEq]
          at there
        exact ⟨confirmed, rfl, there.1.symm⟩

namespace World

variable {knows : Bytes → Prop} {world next : World}

structure Sound (knows : Bytes → Prop) (world : World) : Prop where
  makers : ∀ proof, world.Made proof → (∃ run ∈ world.senders, run.Makes proof) ∨
    ∃ run ∈ world.receivers, run.Makes proof
  senders : ∀ run ∈ world.senders, run.Sound knows world.Made
  receivers : ∀ run ∈ world.receivers, run.Sound knows world.Made

/-- A frame that a sender accepts was made, if the attacker does not know its password. -/
theorem sender_hears {run : SenderRun} (sound : run.Sound knows world.Made)
    (running : run.result = none) {frame : AuthFrame} (presented : world.Presentable knows frame)
    (random : Except String Nonce) :
    (run.hear frame random).1.Sound knows world.Made := by
  obtain ⟨opened, confirming, result⟩ := run
  cases running
  intro outcome returned
  cases confirming with
  | none =>
    simp only [SenderRun.hear] at returned
    cases received : opened.receive frame random with
    | error error => simp [received] at returned
    | ok confirming => simp [received] at returned
  | some confirming =>
    have accepted : confirming.receive frame = .ok outcome := Option.some.inj returned
    obtain ⟨written, contribution, -, frameIs⟩ := SenderConfirming.receive_ok accepted
    subst frameIs
    refine ⟨confirming, _, written, rfl, accepted, ?_⟩
    intro secret
    exact presented _ _ (confirming.protected secret) rfl

theorem receiver_hears {run : ReceiverRun} (sound : run.Sound knows world.Made)
    (running : run.result = none) (unconfirmed : run.confirmed = none) {frame : AuthFrame}
    (presented : world.Presentable knows frame) (random : Except String Nonce) (scalar : Scalar) :
    (run.hear frame random scalar).1.Sound knows world.Made := by
  obtain ⟨opened, responding, confirmed, result⟩ := run
  have absent : confirmed = none := unconfirmed
  have unreturned : result = none := running
  subst absent unreturned
  cases responding with
  | none =>
    simp only [ReceiverRun.hear]
    cases opened.receive frame random scalar with
    | error error => exact ⟨nofun, nofun⟩
    | ok answered =>
      obtain ⟨answer, responding⟩ := answered
      cases responding with
      | error error => exact ⟨nofun, nofun⟩
      | ok responding => exact ⟨nofun, nofun⟩
  | some responding =>
    simp only [ReceiverRun.hear]
    cases received : responding.receive frame random with
    | error error => exact ⟨nofun, nofun⟩
    | ok confirmed =>
      refine ⟨?_, nofun⟩
      intro found same secret
      cases same
      obtain ⟨written, frameIs⟩ := ReceiverResponding.receive_ok received
      rw [frameIs] at presented
      exact presented _ _ (confirmed.responding.protected secret)
        (verifyConfirmation_eq_ok.mp confirmed.verifies)

/-! ### Steps -/

omit [Sha256] in
theorem Made.mono {more : List AuthFrame} (sent : next.sent = more ++ world.sent) {proof : Tag}
    (made : world.Made proof) :
    next.Made proof := by
  obtain ⟨written, there⟩ := made
  exact ⟨written, by rw [sent]; exact List.mem_append_right _ there⟩

omit [Pake] [Hmac] [Sha256] in
theorem mem_of_there {α : Type*} {all others : Multiset α} {run : α}
    (there : all = run ::ₘ others) :
    (∀ found ∈ all, found = run ∨ found ∈ others) ∧ ∀ found ∈ others, found ∈ all := by
  subst there
  exact ⟨fun _ found => Multiset.mem_cons.mp found, fun _ found => Multiset.mem_cons_of_mem found⟩

theorem Sound.sender {changed : SenderRun} {others : Multiset SenderRun} {more : List AuthFrame}
    (sound : world.Sound knows) (known : ∀ run ∈ others, run ∈ world.senders)
    (kept : ∀ run ∈ world.senders, run ∈ others ∨ ∀ proof, run.Makes proof → changed.Makes proof)
    (sends : ∀ proof written, .spake2Confirm proof written ∈ more → changed.Makes proof)
    (accepts : changed.Sound knows world.Made) :
    Sound knows { world with senders := changed ::ₘ others, sent := more ++ world.sent } := by
  have grows : ∀ proof, world.Made proof →
      Made { world with senders := changed ::ₘ others, sent := more ++ world.sent } proof :=
    fun _ made => made.mono rfl
  refine ⟨?_, ?_, fun run there => (sound.receivers run there).mono grows⟩
  · intro proof made
    obtain ⟨written, there⟩ := made
    cases List.mem_append.mp there with
    | inl new => exact .inl ⟨changed, Multiset.mem_cons_self _ _, sends proof written new⟩
    | inr old =>
      cases sound.makers proof ⟨written, old⟩ with
      | inr receiver => exact .inr receiver
      | inl sender =>
        obtain ⟨run, there, makes⟩ := sender
        cases kept run there with
        | inl other => exact .inl ⟨run, Multiset.mem_cons_of_mem other, makes⟩
        | inr keeps => exact .inl ⟨changed, Multiset.mem_cons_self _ _, keeps proof makes⟩
  · intro run there
    cases Multiset.mem_cons.mp there with
    | inl same => exact same ▸ accepts.mono grows
    | inr other => exact (sound.senders run (known run other)).mono grows

theorem Sound.receiver {changed : ReceiverRun} {others : Multiset ReceiverRun}
    {more : List AuthFrame} (sound : world.Sound knows)
    (known : ∀ run ∈ others, run ∈ world.receivers)
      (kept : ∀ run ∈ world.receivers, run ∈ others ∨ ∀ proof, run.Makes proof →
        changed.Makes proof)
    (sends : ∀ proof written, .spake2Confirm proof written ∈ more → changed.Makes proof)
    (accepts : changed.Sound knows world.Made) :
    Sound knows { world with receivers := changed ::ₘ others, sent := more ++ world.sent } := by
  have grows : ∀ proof, world.Made proof →
      Made { world with receivers := changed ::ₘ others, sent := more ++ world.sent } proof :=
    fun _ made => made.mono rfl
  refine ⟨?_, fun run there => (sound.senders run there).mono grows, ?_⟩
  · intro proof made
    obtain ⟨written, there⟩ := made
    cases List.mem_append.mp there with
    | inl new => exact .inr ⟨changed, Multiset.mem_cons_self _ _, sends proof written new⟩
    | inr old =>
      cases sound.makers proof ⟨written, old⟩ with
      | inl sender => exact .inl sender
      | inr receiver =>
        obtain ⟨run, there, makes⟩ := receiver
        cases kept run there with
        | inl other => exact .inr ⟨run, Multiset.mem_cons_of_mem other, makes⟩
        | inr keeps => exact .inr ⟨changed, Multiset.mem_cons_self _ _, keeps proof makes⟩
  · intro run there
    cases Multiset.mem_cons.mp there with
    | inl same => exact same ▸ accepts.mono grows
    | inr other => exact (sound.receivers run (known run other)).mono grows

theorem Step.sound (step : Step knows world next) (sound : world.Sound knows) :
    next.Sound knows := by
  cases step with
  | @opensSender _ _ _ _ _ opened opens =>
    exact @Sound.sender _ _ _ _ _ _ _ [opened.start] sound (fun _ there => there)
      (fun _ there => .inl there)
      (by simp [SenderOpened.start]) nofun
  | opensReceiver opens =>
    exact @Sound.receiver _ _ _ _ _ _ _ [] sound (fun _ there => there) (fun _ there => .inl there)
      (by simp) ⟨nofun, nofun⟩
  | @senderHears run others frame random there running presented =>
    obtain ⟨old, known⟩ := mem_of_there there
    have runSound := sound.senders run (there ▸ Multiset.mem_cons_self _ _)
    refine sound.sender known ?_ (fun _ => SenderRun.hear_makes.2)
      (sender_hears runSound running presented random)
    intro found foundThere
    cases old found foundThere with
    | inl same => exact .inr fun _ => same ▸ SenderRun.hear_makes.1
    | inr other => exact .inl other
  | @receiverHears run others frame random scalar there running unconfirmed presented =>
    obtain ⟨old, known⟩ := mem_of_there there
    have runSound := sound.receivers run (there ▸ Multiset.mem_cons_self _ _)
    refine sound.receiver known ?_ (fun _ => (ReceiverRun.hear_makes unconfirmed).2)
      (receiver_hears runSound running unconfirmed presented random scalar)
    intro found foundThere
    cases old found foundThere with
    | inl same => exact .inr fun _ => same ▸ (ReceiverRun.hear_makes unconfirmed).1
    | inr other => exact .inl other
  | @receiverReturns run others confirmed there running confirms =>
    obtain ⟨old, known⟩ := mem_of_there there
    have runSound := sound.receivers run (there ▸ Multiset.mem_cons_self _ _)
    refine @Sound.receiver _ _ _ _ _ _ _ [] sound known ?_ (by simp) ⟨runSound.accepted, ?_⟩
    · intro found foundThere
      cases old found foundThere with
      | inl same => exact .inr fun _ makes => same ▸ makes
      | inr other => exact .inl other
    · intro outcome returned
      exact ⟨confirmed, confirms, (Except.ok.inj (Option.some.inj returned)).symm⟩
  | @senderFails run others error there running =>
    obtain ⟨old, known⟩ := mem_of_there there
    refine @Sound.sender _ _ _ _ _ _ _ [] sound known ?_ (by simp) nofun
    intro found foundThere
    cases old found foundThere with
    | inl same => exact .inr fun _ makes => same ▸ makes
    | inr other => exact .inl other
  | @receiverFails run others error there running =>
    obtain ⟨old, known⟩ := mem_of_there there
    have runSound := sound.receivers run (there ▸ Multiset.mem_cons_self _ _)
    refine @Sound.receiver _ _ _ _ _ _ _ [] sound known ?_ (by simp) ⟨runSound.accepted, nofun⟩
    intro found foundThere
    cases old found foundThere with
    | inl same => exact .inr fun _ makes => same ▸ makes
    | inr other => exact .inl other

theorem Reachable.sound (reachable : Reachable knows world) : world.Sound knows := by
  induction reachable with
  | refl => exact ⟨by simp [Made, empty], by simp [empty], by simp [empty]⟩
  | tail _ step sound => exact step.sound sound

end World

/-! ## Agreement -/

/-- The receiver that confirmed to a sender which returned `outcome`. -/
structure Answered (outcome : AuthenticationOutcome) {sender : SenderOpened}
    {receiver : ReceiverOpened} (confirming : SenderConfirming sender)
    (confirmed : ReceiverConfirmed receiver) : Prop where
  password : sender.profile.password = receiver.profile.password
  domain : sender.profile.domain = receiver.profile.domain
  binding : sender.profile.invitationBinding = receiver.profile.invitationBinding
  exporter : sender.exporter = receiver.exporter
  /-- nonces, messages and consents -/
  transcript : confirming.transcript = confirmed.responding.transcript
  contribution : confirming.contribution = confirmed.senderContribution
  produced : ∃ written, confirming.receive (.spake2Confirm confirmed.proof written) = .ok outcome
  sameOutcome : confirmed.outcome = outcome
  remembers : outcome.rememberSecret.isSome →
    sender.consent ∧ receiver.consent ∧ sender.config.isInvitationV2 ∧
      receiver.config.isInvitationV2

/-- The sender whose confirmation a receiver has verified. -/
structure Confirmed {sender : SenderOpened} {receiver : ReceiverOpened}
    (confirming : SenderConfirming sender) (confirmed : ReceiverConfirmed receiver) : Prop where
  password : sender.profile.password = receiver.profile.password
  transcript : confirming.transcript = confirmed.responding.transcript
  contribution : confirming.contribution = confirmed.senderContribution
  produced : confirming.proof = confirmed.verified

omit [Hmac] [Sha256] in
/-- The key names the password. -/
theorem password_of_key {sender : SenderOpened} {receiver : ReceiverOpened}
    {confirming : SenderConfirming sender} {responding : ReceiverResponding receiver}
    (same : confirming.sharedKey = responding.sharedKey) :
    sender.profile.password = receiver.profile.password := by
  obtain ⟨inputs, -⟩ := Pake.binds confirming.finished (same ▸ responding.finished)
  exact asBytes_injective (congrArg PakeInput.password inputs)

omit [Pake] [Hmac] in
theorem mutualRemember_of_combine {mutualRemember : Bool} {sender receiver : Option Nonce}
    {binding : Buffer}
    (remembers : (combineRemember mutualRemember sender receiver binding).isSome) :
    mutualRemember = true := by
  cases mutualRemember with
  | false => cases remembers
  | true => rfl

theorem answered_of_proof {sender : SenderOpened} {receiver : ReceiverOpened}
    {confirming : SenderConfirming sender} {confirmed : ReceiverConfirmed receiver}
    {written : Option Buffer} {outcome : AuthenticationOutcome}
    (accepted : confirming.receive (.spake2Confirm confirmed.proof written) = .ok outcome) :
    Answered outcome confirming confirmed := by
  obtain ⟨_, contribution, outcomeIs, frames⟩ := SenderConfirming.receive_ok accepted
  obtain ⟨keys, transcripts, -, senders, receivers⟩ :=
    confirmationProof_inj (AuthFrame.spake2Confirm.inj frames).1
  have senderConsent : confirmed.responding.senderConsent = sender.rememberConsent :=
    congrArg ConfirmationTranscript.senderRememberConsent transcripts
  have receiverConsent : receiver.rememberConsent = confirming.receiverConsent :=
    congrArg ConfirmationTranscript.receiverRememberConsent transcripts
  have binding : receiver.profile.invitationBinding = sender.profile.invitationBinding :=
    congrArg ConfirmationTranscript.invitationBinding transcripts
  have bothRemember : confirmed.responding.mutualRemember = confirming.mutualRemember := by
    rw [ReceiverResponding.mutualRemember, SenderConfirming.mutualRemember, senderConsent,
      receiverConsent]
  refine
    { password := password_of_key keys.symm
      domain := (congrArg ConfirmationTranscript.domain transcripts).symm
      binding := binding.symm
      exporter :=
        (@Buffer.ofVector_inj _ _ _ (by decide)
          (congrArg ConfirmationTranscript.exporter transcripts)).symm
      transcript := transcripts.symm
      contribution := senders.symm
      produced := ⟨written, accepted⟩
      sameOutcome := ?_
      remembers := ?_ }
  · rw [outcomeIs, ReceiverConfirmed.outcome, SenderConfirming.outcome, bothRemember, senders,
      receivers, binding]
  · intro remembers
    rw [outcomeIs] at remembers
    have both : (sender.rememberConsent && receiver.rememberConsent) = true := by
      rw [receiverConsent]
      exact mutualRemember_of_combine remembers
    simp only [SenderOpened.rememberConsent, ReceiverOpened.rememberConsent, Bool.and_eq_true]
      at both
    exact ⟨both.1.1, both.2.1, both.1.2, both.2.2⟩

omit [Sha256] in
theorem confirmed_of_proof {sender : SenderOpened} {receiver : ReceiverOpened}
    {confirming : SenderConfirming sender} {confirmed : ReceiverConfirmed receiver}
    (produced : confirming.proof = confirmed.verified) :
    Confirmed confirming confirmed := by
  have genuine := produced.trans (verifyConfirmation_eq_ok.mp confirmed.verifies)
  obtain ⟨keys, transcripts, -, senders, -⟩ := confirmationProof_inj genuine
  exact
    { password := password_of_key keys
      transcript := transcripts
      contribution := senders
      produced }

/-- A receiver never accepts what a receiver made, nor a sender what a sender made. -/
theorem SenderConfirming.not_reflected {sender other : SenderOpened}
    {confirming : SenderConfirming sender} {reflected : SenderConfirming other}
    {written : Option Buffer} {outcome : AuthenticationOutcome}
    (accepted : confirming.receive (.spake2Confirm reflected.proof written) = .ok outcome) :
    False := by
  obtain ⟨_, contribution, -, frames⟩ := SenderConfirming.receive_ok accepted
  obtain ⟨-, -, labels, -, -⟩ := confirmationProof_inj (AuthFrame.spake2Confirm.inj frames).1
  exact labels_differ labels

omit [Sha256] in
theorem ReceiverConfirmed.not_reflected {receiver other : ReceiverOpened}
    {confirmed : ReceiverConfirmed receiver} {reflected : ReceiverConfirmed other}
    (produced : reflected.proof = confirmed.verified) : False := by
  have genuine := produced.trans (verifyConfirmation_eq_ok.mp confirmed.verifies)
  obtain ⟨-, -, labels, -, -⟩ := confirmationProof_inj genuine
  exact labels_differ labels.symm

/-- Whatever the network does, and whatever other passwords it knows, a sender that returns was
confirmed by a receiver that agrees with it on everything, and a receiver by a sender. -/
theorem data_plane_agreement {knows : Bytes → Prop} {world : World}
    (reachable : world.Reachable knows) :
    (∀ run ∈ world.senders, ∀ outcome, run.result = some (.ok outcome) →
      ¬ knows (asBytes run.opened.profile.password) →
      ∃ peer ∈ world.receivers, ∃ confirming confirmed, run.confirming = some confirming ∧
        peer.confirmed = some confirmed ∧ Answered outcome confirming confirmed ∧
        ∀ returned, peer.result = some (.ok returned) → returned = outcome) ∧
    ∀ run ∈ world.receivers, ∀ outcome, run.result = some (.ok outcome) →
      ¬ knows (asBytes run.opened.profile.password) →
      ∃ peer ∈ world.senders, ∃ confirming confirmed, peer.confirming = some confirming ∧
        run.confirmed = some confirmed ∧ Confirmed confirming confirmed := by
  have sound := reachable.sound
  refine ⟨?_, ?_⟩
  · intro run there outcome returned secret
    obtain ⟨confirming, proof, written, confirms, accepted, genuine⟩ :=
      sound.senders run there outcome returned
    cases sound.makers proof (genuine secret) with
    | inl sender =>
      obtain ⟨_, -, reflected, -, same⟩ := sender
      subst same
      exact (SenderConfirming.not_reflected accepted).elim
    | inr receiver =>
      obtain ⟨peer, peerThere, confirmed, peerConfirms, same⟩ := receiver
      subst same
      have answered := answered_of_proof accepted
      refine ⟨peer, peerThere, confirming, confirmed, confirms, peerConfirms, answered, ?_⟩
      intro theirs peerReturned
      obtain ⟨found, peerFound, outcomeIs⟩ :=
        (sound.receivers peer peerThere).returned theirs peerReturned
      cases Option.some.inj (peerConfirms.symm.trans peerFound)
      exact outcomeIs.trans answered.sameOutcome
  · intro run there outcome returned secret
    obtain ⟨confirmed, confirms, -⟩ := (sound.receivers run there).returned outcome returned
    have genuine := (sound.receivers run there).accepted confirmed confirms secret
    cases sound.makers confirmed.verified genuine with
    | inl sender =>
      obtain ⟨peer, peerThere, confirming, peerConfirms, produced⟩ := sender
      exact ⟨peer, peerThere, confirming, confirmed, peerConfirms, confirms,
        confirmed_of_proof produced⟩
    | inr receiver =>
      obtain ⟨_, -, reflected, -, produced⟩ := receiver
      exact (ReceiverConfirmed.not_reflected produced).elim

end

/-! ### Two runs that remember each other -/

local instance rememberPake : Pake := namingPake

local instance rememberHmac : Hmac := namingHmac

local instance rememberSha256 : Sha256 := shorteningSha256

def rememberConfig : PairingConfig :=
  .invitationV2 "correct horse battery"
    { inviteId := .zero 16, contextCommitment := .zero 32, selectedBootstrapMethod := .fullTicket,
      creatorTransferRole := .sender, joinerTransferRole := .receiver,
      controlTranscriptHash := none }

def rememberSender : SenderOpened where
  config := rememberConfig
  consent := true
  exporter := .zero 32
  nonce := .zero 32
  scalar := ByteVector.zero 32

def rememberReceiver : ReceiverOpened where
  config := rememberConfig
  consent := true
  exporter := .zero 32

def answering : ReceiverResponding rememberReceiver where
  senderNonce := rememberSender.nonce.buffer
  senderMessage := rememberSender.message
  senderConsent := true
  nonce := .zero 32
  scalar := ByteVector.zero 32
  sharedKey :=
    (rememberConfig |> authProfile |> AuthProfile.pakeInput, rememberSender.message,
      sided .b (.zero 32))
  finished := rfl

def proving : SenderConfirming rememberSender where
  receiverNonce := answering.nonce.buffer
  receiverMessage := sided .b (.zero 32)
  receiverConsent := true
  sharedKey := answering.sharedKey
  finished := rfl
  contribution := some (.zero 32)
  contributes := rfl

def approving : ReceiverConfirmed rememberReceiver where
  responding := answering
  verified := proving.proof
  senderContribution := some (.zero 32)
  receiverContribution := some (.zero 32)
  verifies := verifyConfirmation_eq_ok.mpr rfl

theorem answering_receive : answering.receive proving.confirm (.ok (.zero 32)) = .ok approving :=
  ReceiverResponding.receive_genuine rfl approving.verifies rfl

theorem proving_receive : proving.receive approving.confirm = .ok approving.outcome :=
  SenderConfirming.receive_genuine rfl (verifyConfirmation_eq_ok.mpr rfl)

def senderAt (confirming : Option (SenderConfirming rememberSender)) : SenderRun where
  opened := rememberSender
  confirming
  result := none

def receiverAt (responding : Option (ReceiverResponding rememberReceiver))
    (confirmed : Option (ReceiverConfirmed rememberReceiver)) : ReceiverRun where
  opened := rememberReceiver
  responding
  confirmed
  result := none

def senderDone : SenderRun :=
  { senderAt (some proving) with result := some (.ok approving.outcome) }

def receiverDone : ReceiverRun :=
  { receiverAt (some answering) (some approving) with result := some (.ok approving.outcome) }

def rememberAnswer : AuthFrame :=
  .spake2Message (Nonce.buffer (.zero 32)) (sided .b (.zero 32)) true

def bothDone : World where
  senders := {senderDone}
  receivers := {receiverDone}
  sent := [approving.confirm, proving.confirm, rememberAnswer, rememberSender.start]

/-- The attacker knows all other passwords. -/
def knowsOthers (password : Bytes) : Prop := password ≠ asBytes "correct horse battery"

theorem bothDone_reachable : bothDone.Reachable knowsOthers := by
  have senderOpens : openSender rememberConfig true (.ok (.zero 32)) (.ok (.zero 32))
      (ByteVector.zero 32) =
      .ok rememberSender := rfl
  have receiverOpens : openReceiver rememberConfig true (.ok (.zero 32)) = .ok rememberReceiver :=
    rfl
  have answers : (receiverAt none none).hear rememberSender.start (.ok (.zero 32))
      (ByteVector.zero 32) =
      (receiverAt (some answering) none, [rememberAnswer]) := rfl
  have proves : (senderAt none).hear rememberAnswer (.ok (.zero 32)) =
    (senderAt (some proving), [proving.confirm]) := rfl
  have approves : (receiverAt (some answering) none).hear proving.confirm (.ok (.zero 32))
      (ByteVector.zero 32) =
      (receiverAt (some answering) (some approving), [approving.confirm]) := by
    simp only [ReceiverRun.hear, receiverAt, answering_receive]
  have ends : (senderAt (some proving)).hear approving.confirm (.ok (.zero 32)) =
      (senderDone, []) := by
    simp only [SenderRun.hear, senderAt, senderDone, proving_receive]
  have opened :
    World.Reachable knowsOthers ⟨{senderAt none}, {receiverAt none none}, [rememberSender.start]⟩ :=
    .tail (.single (.opensSender senderOpens)) (.opensReceiver receiverOpens)
  have answered :=
    opened.tail (.receiverHears rememberSender.start (.ok (.zero 32)) (ByteVector.zero 32)
    (show _ = receiverAt none none ::ₘ 0 from rfl) rfl rfl trivial)
  rw [answers] at answered
  have proven :=
    answered.tail (.senderHears rememberAnswer (.ok (.zero 32))
      (show _ = senderAt none ::ₘ 0 from rfl) rfl
    trivial)
  rw [proves] at proven
  have approved := proven.tail (.receiverHears proving.confirm (.ok (.zero 32)) (ByteVector.zero 32)
    (show _ = receiverAt (some answering) none ::ₘ 0 from rfl) rfl rfl fun _ _ _ _ => ⟨_, .head _⟩)
  rw [approves] at approved
  have returned := approved.tail (.receiverReturns
    (show _ = receiverAt (some answering) (some approving) ::ₘ 0 from rfl) rfl rfl)
  have ended := returned.tail (.senderHears approving.confirm (.ok (.zero 32))
    (show _ = senderAt (some proving) ::ₘ 0 from rfl) rfl fun _ _ _ _ => ⟨_, .head _⟩)
  rw [ends] at ended
  exact ended

theorem data_plane_agreement_remembers :
    bothDone.Reachable knowsOthers ∧ senderDone ∈ bothDone.senders ∧
    approving.outcome.rememberSecret.isSome ∧
    (∃ peer ∈ bothDone.receivers, ∃ confirming confirmed, senderDone.confirming = some confirming ∧
      peer.confirmed = some confirmed ∧ Answered approving.outcome confirming confirmed ∧
      ∀ returned, peer.result = some (.ok returned) → returned = approving.outcome) ∧
    ∃ peer ∈ bothDone.senders, ∃ confirming confirmed, peer.confirming = some confirming ∧
      receiverDone.confirmed = some confirmed ∧ Confirmed confirming confirmed :=
  have agreement := data_plane_agreement bothDone_reachable
  ⟨bothDone_reachable, Multiset.mem_singleton_self _, rfl,
    agreement.1 senderDone (Multiset.mem_singleton_self _) _ rfl (not_not_intro rfl),
    agreement.2 receiverDone (Multiset.mem_singleton_self _) _ rfl (not_not_intro rfl)⟩

end Envoix.Auth
