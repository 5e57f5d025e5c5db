import LibSrtp.Support.Exec
import LibSrtp.Support.Bytes

/-!
# Errors and replies of the library
-/

namespace LibSrtp

/-- A master key identifier, `None` when the stream does not use one. -/
abbrev Mki := Option Bytes

/-- The bytes an MKI takes in a packet: none when it is not used. -/
def mkiBytes (mki : Mki) : Bytes := mki.getD []

/-- `SrtpError` -/
inductive SrtpError where
  | encryption
  | authentication
  | contextNotReady
  | invalidKeySize
  | transformDispatch
  | kdfDispatch
  | invalidPacket
  | invalidProfile
  | invalidPacketIndex
  | invalidMki
  | streamNotFound
  | keyLimit (isRtp isDead : Bool) (mki : Mki) (ssrc : UInt32)
deriving DecidableEq, Repr

/-- The call was not stopped by a dead key. -/
def NotKeyLimit : Fault SrtpError → Prop
  | .error (.keyLimit ..) => False
  | _ => True

/-- A fault of a stream itself: it was not stopped by a dead key, and not for want of a stream. -/
def OwnFault : Fault SrtpError → Prop
  | .error (.keyLimit ..) => False
  | .error .streamNotFound => False
  | _ => True

theorem OwnFault.notKeyLimit {f : Fault SrtpError} (h : OwnFault f) : NotKeyLimit f := by
  unfold OwnFault at h
  split at h
  · exact h
  · trivial
  · next hnot _ =>
    unfold NotKeyLimit
    split
    · exact hnot _ _ _ _ rfl
    · trivial

theorem OwnFault.ne_streamNotFound {f : Fault SrtpError} (h : OwnFault f) :
    f ≠ .error .streamNotFound := by
  rintro rfl
  exact h

/-- `Result<α, SrtpError>`, or a panic. -/
abbrev Res := Exec SrtpError

/-- The user's key limit handler. Only its identity matters: the closure runs outside the library. -/
abbrev KeyLimitHandler := Nat

/-- One call of a key limit handler. -/
structure HandlerCall where
  handler : KeyLimitHandler
  error : SrtpError
deriving DecidableEq, Repr

/-- The answer of a `&mut self` method: its result, the object afterwards, the handler calls. -/
abbrev Answer := Reply SrtpError HandlerCall

end LibSrtp
