import Mathlib.Data.String.Basic
import WaveCache.Proofs.Wire.Damage

/-!
# The bound on messages

The number of bytes behind a header is bounded when a message is written, and not when one is read.
What is encoded keeps to the bound (`Exact.encodeBinary_eq_ok_iff`), but bytes are decoded whenever
they are a header and the bytes of some message, however many there are
(`Exact.decodeBinary_eq_ok_iff`).  So a message can be received that cannot be sent on.
-/

namespace WaveCache.Wire

namespace Form

variable {α : Type} {form : Form α} {a : α} {bs : List UInt8}

/-- Nothing but the bytes of the message decides about reading it. -/
theorem Exact.decodeBinary_eq_ok_iff (h : form.Exact) (hlength : bs.length < 2 ^ 64) :
    form.decodeBinary bs = .ok a ↔ bs = Binary.bytesOfNat 2 protocolVersion ++ form.toBinary a := by
  constructor
  · exact h.decodeBinary_eq_ok
  · rintro rfl
    rw [List.length_append, h.length_toBinary] at hlength
    exact h.decodeBinary_of_size (by omega)

/-- A message that was read is written as it was if the bound allows it. -/
theorem Exact.encodeBinary_of_decodeBinary (h : form.Exact)
    (hdecode : form.decodeBinary bs = .ok a) :
    form.encodeBinary a =
      if maxBytes < (bs.drop 2).length then .error (.binary .tooLarge) else .ok bs := by
  rw [h.encodeBinary_eq, h.decodeBinary_eq_ok hdecode]
  rfl

/-- What is written are the bytes that are read as the message, if the bound allows it. -/
theorem Exact.encodeBinary_eq_ok_iff (h : form.Exact) : form.encodeBinary a = .ok bs ↔
    form.decodeBinary bs = .ok a ∧ (bs.drop 2).length ≤ maxBytes := by
  constructor
  · intro hencode
    obtain ⟨rfl, hsize⟩ := encodeBinary_eq_ok hencode
    have hdecode := h.decodeBinary_of_size hsize
    rw [h.encodeBinary_of_decodeBinary hdecode] at hencode
    split at hencode
    · cases hencode
    · rename_i hbound
      exact ⟨hdecode, Nat.le_of_not_lt hbound⟩
  · rintro ⟨hdecode, hbound⟩
    rw [h.encodeBinary_of_decodeBinary hdecode, if_neg (Nat.not_lt.mpr hbound)]

/-- A message with too many bytes can be received and cannot be sent. -/
theorem Exact.oversized (h : form.Exact) (hlarge : maxBytes < form.size a)
    (hsize : form.size a < 2 ^ 64) :
    let bs := Binary.bytesOfNat 2 protocolVersion ++ form.toBinary a
    maxBytes < (bs.drop 2).length ∧ form.decodeBinary bs = .ok a ∧
      form.encodeBinary a = .error (.binary .tooLarge) := by
  intro bs
  have hdecode : form.decodeBinary bs = .ok a := h.decodeBinary_of_size hsize
  have hlength : maxBytes < (bs.drop 2).length := by
    show maxBytes < (form.toBinary a).length
    rwa [h.length_toBinary]
  exact ⟨hlength, hdecode, by rw [h.encodeBinary_of_decodeBinary hdecode, if_pos hlength]⟩

end Form

/-- A message of any kind is encoded to the bytes that are decoded to it, unless there are too many
of them behind the header, and then it is not encoded.  Decoding does not look at their number: it
fails on those bytes only that are not a header and the bytes of a message. -/
theorem decodeBinary_unbounded (kind : MessageKind) (bs : List UInt8) :
    (∀ m, kind.form.encodeBinary m = .ok bs ↔
      kind.form.decodeBinary bs = .ok m ∧ (bs.drop 2).length ≤ Form.maxBytes) ∧
    (∀ m, kind.form.decodeBinary bs = .ok m → Form.maxBytes < (bs.drop 2).length →
      kind.form.encodeBinary m = .error (.binary .tooLarge)) ∧
    (bs.length < 2 ^ 64 → ((∃ error, kind.form.decodeBinary bs = .error error) ↔
      ∀ m, bs ≠ Binary.bytesOfNat 2 protocolVersion ++ kind.form.toBinary m)) := by
  have h := kind.exact_form
  refine ⟨fun m => h.encodeBinary_eq_ok_iff, fun m hdecode hbound => ?_, fun hlength => ?_⟩
  · rw [h.encodeBinary_of_decodeBinary hdecode, if_pos hbound]
  · constructor
    · rintro ⟨error, herror⟩ m hbs
      rw [(h.decodeBinary_eq_ok_iff hlength).mpr hbs] at herror
      cases herror
    · intro hne
      cases hdecode : kind.form.decodeBinary bs with
      | error error => exact ⟨error, rfl⟩
      | ok m => exact absurd (h.decodeBinary_eq_ok hdecode) (hne m)

/-! ## A name that is too long -/

/-- A name of so many letters. -/
def nameOfLength (n : Nat) : String :=
  String.ofList (List.replicate n 'a')

theorem utf8ByteSize_nameOfLength (n : Nat) : (nameOfLength n).utf8ByteSize = n := by
  rw [nameOfLength, String.utf8ByteSize_ofList]
  induction n with
  | zero => rfl
  | succ n ih =>
    rw [List.replicate_succ, String.utf8Len_cons, ih]
    rfl

/-- A request by name takes 36 bytes and those of its name. -/
theorem size_request_data (r : DataRequest) :
    Form.request.size (.data r) = 36 + r.name.utf8ByteSize := by
  show 4 + (8 + (8 + r.name.utf8ByteSize + (8 + (8 + 0)))) = _
  omega

/-- A request whose name alone takes as many bytes as may be sent is decoded, and cannot be encoded
again. -/
theorem decodeBinary_oversized :
    let m : Request := .data ⟨7, nameOfLength Form.maxBytes, 1, 2⟩
    let bs := Binary.bytesOfNat 2 protocolVersion ++ Form.request.toBinary m
    Form.maxBytes < (bs.drop 2).length ∧ Form.request.decodeBinary bs = .ok m ∧
      Form.request.encodeBinary m = .error (.binary .tooLarge) := by
  have hsize : Form.request.size (.data ⟨7, nameOfLength Form.maxBytes, 1, 2⟩) =
      36 + Form.maxBytes :=
    (size_request_data _).trans (congrArg (36 + ·) (utf8ByteSize_nameOfLength _))
  have hmax : 36 + Form.maxBytes < 2 ^ 64 := by decide
  rw [← hsize] at hmax
  exact Form.exact_request.oversized (by omega) hmax

end WaveCache.Wire
