import Envoix.Foundation.Framing
import Envoix.Invite.Bootstrap

/-! # What an authenticated channel is bound to

The contexts of both planes as framed bytes: whoever confirms the bytes confirms every field. -/

namespace Envoix.Invite

open ByteCodec
open Envoix.Rendezvous (TransferRole BootstrapKind)

def roleBuffer (role : TransferRole) : Buffer := ⟨transferRoleBytes role, by cases role <;> decide⟩

def methodBuffer (kind : BootstrapKind) : Buffer :=
  .ofText (BootstrapKind.id kind) (by cases kind <;> decide)

def Commitment.buffer (commitment : Commitment) : Buffer := .ofVector commitment (by decide)

namespace InvitationAuthContext

/-- The parts of `framed_binding`; nothing stands for no transcript. -/
def parts (self : InvitationAuthContext) : List Buffer :=
  [.ofVector self.inviteId (by decide), self.contextCommitment.buffer,
    methodBuffer self.selectedBootstrapMethod, roleBuffer self.creatorTransferRole,
    roleBuffer self.joinerTransferRole,
    (self.controlTranscriptHash.map Commitment.buffer).getD .empty]

def framedBinding (self : InvitationAuthContext) : Buffer where
  bytes := framed self.parts
  fits := by
    have method (kind : BootstrapKind) :
      (methodBuffer kind).bytes.length ≤ 14 := by cases kind <;> decide
    have role (side : TransferRole) : (roleBuffer side).bytes.length ≤ 8 := by cases side <;> decide
    have hash (found : Option Commitment) :
        ((found.map Commitment.buffer).getD .empty).bytes.length ≤ 32 := by
      cases found with
      | none => decide
      | some hash => exact Nat.le_of_eq hash.length_toList
    have invite : (Buffer.ofVector self.inviteId (by decide)).bytes.length = 16 :=
      self.inviteId.length_toList
    have commitment : self.contextCommitment.buffer.bytes.length = 32 :=
      self.contextCommitment.length_toList
    have kind := method self.selectedBootstrapMethod
    have creator := role self.creatorTransferRole
    have joiner := role self.joinerTransferRole
    have transcript := hash self.controlTranscriptHash
    rw [length_framed]
    simp only [parts, List.map_cons, List.map_nil, List.sum_cons, List.sum_nil, invite, commitment]
    omega

end InvitationAuthContext

/-! ## The control plane -/

/-- The room is named by a string in memory. -/
structure ControlContext extends InvitationControlContext where
  fits : (asBytes roomId).length < 2 ^ 63

namespace ControlContext

def parts (self : ControlContext) : List Buffer :=
  [.ofText self.roomId (by have := self.fits; omega), methodBuffer self.selectedBootstrapMethod,
    roleBuffer self.creatorTransferRole, roleBuffer self.joinerTransferRole]

theorem framedBinding_eq (self : ControlContext) : self.framedBinding = framed self.parts := by
  have same (buffer : Buffer) : Invite.lenPrefixed buffer.bytes = ByteCodec.lenPrefixed buffer := by
    have small : buffer.bytes.length < 2 ^ 64 := buffer.fits
    rw [Invite.lenPrefixed, ByteCodec.lenPrefixed, u64Be, UInt64.toNat_ofNat',
      Nat.mod_eq_of_lt small]
  simp only [framed, parts, List.flatMap_cons, List.flatMap_nil, List.append_nil, ← same]
  simp only [InvitationControlContext.framedBinding, List.append_assoc]
  rfl

def binding (self : ControlContext) : Buffer where
  bytes := self.framedBinding
  fits := by
    have fits := self.fits
    have method : (methodBuffer self.selectedBootstrapMethod).bytes.length ≤ 14 := by
      cases self.selectedBootstrapMethod <;> decide
    have role (side : TransferRole) : (roleBuffer side).bytes.length ≤ 8 := by cases side <;> decide
    have creator := role self.creatorTransferRole
    have joiner := role self.joinerTransferRole
    have room : (Buffer.ofText self.roomId (by omega)).bytes.length =
      (asBytes self.roomId).length := rfl
    rw [framedBinding_eq, length_framed]
    simp only [parts, List.map_cons, List.map_nil, List.sum_cons, List.sum_nil, room]
    omega

theorem methodBuffer_inj {left right : BootstrapKind}
    (same : methodBuffer left = methodBuffer right) : left = right := by
  cases left <;> cases right <;> first | rfl | exact absurd (Buffer.ofText_inj same) (by decide)

theorem roleBuffer_inj {left right : TransferRole} (same : roleBuffer left = roleBuffer right) :
    left = right := by
  cases left <;> cases right <;>
    first | rfl | exact absurd (asBytes_injective (congrArg Buffer.bytes same)) (by decide)

/-- The binding names every field. -/
theorem binding_inj {left right : ControlContext} (same : left.binding = right.binding) :
    left = right := by
  have bytes : framed left.parts ++ [] = framed right.parts ++ [] := by
    rw [← framedBinding_eq, ← framedBinding_eq]
    exact congrArg (fun buffer => buffer.bytes ++ []) same
  obtain ⟨parts, -⟩ := framed_append_inj (by rfl) bytes
  simp only [ControlContext.parts, List.cons.injEq, and_true] at parts
  obtain ⟨room, method, creator, joiner⟩ := parts
  obtain ⟨⟨leftRoom, leftMethod, leftCreator, leftJoiner⟩, leftFits⟩ := left
  obtain ⟨⟨rightRoom, rightMethod, rightCreator, rightJoiner⟩, rightFits⟩ := right
  obtain rfl : leftRoom = rightRoom := Buffer.ofText_inj room
  obtain rfl : leftMethod = rightMethod := methodBuffer_inj method
  obtain rfl : leftCreator = rightCreator := roleBuffer_inj creator
  obtain rfl : leftJoiner = rightJoiner := roleBuffer_inj joiner
  rfl

end ControlContext

end Envoix.Invite
