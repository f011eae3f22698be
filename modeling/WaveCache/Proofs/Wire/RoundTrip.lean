import WaveCache.Proofs.Wire.Exact
import WaveCache.Wire.Messages

/-!
# Messages come back from bytes

`MessageKind` lists the messages that are sent.  The form of each is exact, so a message that was
encoded is decoded again, and encoding fails for no other reason than the size of the message.  In
the other direction, bytes that are decoded are the ones that the message is encoded to, so there is
no second way of sending it.
-/

namespace WaveCache.Wire

/-! ## The forms of messages -/

namespace Form

theorem exact_channelKey : channelKey.Exact :=
  (Exact.record exact_text <| .field exact_text <| .field exact_text <|
    .field exact_text .nil).via (fun _ => rfl) fun _ => rfl

/-- The fields that are written are those that are read, under the same names and in the same order.
-/
theorem writeAlike_dataPacket : dataPacket.WriteAlike packetFields where
  size_eq _ := rfl
  toBinary_eq _ := rfl
  toJson_eq _ := rfl

/-- The end of a packet comes back although it is not written, since it follows from the rest. -/
theorem exact_packet : packet.Exact := by
  refine Exact.checked (Exact.record exact_channelKey <| .field exact_time <| .field exact_double <|
    .field exact_double.list .nil) writeAlike_dataPacket Packet.make_parts ?_
  rintro ⟨channel, start, rate, samples, _⟩ p hmake
  obtain ⟨rfl, rfl, rfl, rfl⟩ := Packet.parts_of_make hmake
  rfl

theorem exact_sensorRequest : sensorRequest.Exact :=
  (Exact.record (exact_natural "u64") <| .field exact_channelKey <|
    .field exact_time <| .field exact_time .nil).via (fun _ => rfl) fun _ => rfl

theorem exact_dataRequest : dataRequest.Exact :=
  (Exact.record (exact_natural "u64") <| .field exact_text <|
    .field exact_time <| .field exact_time .nil).via (fun _ => rfl) fun _ => rfl

theorem exact_bulkRequest : bulkRequest.Exact :=
  (Exact.record (exact_natural "u64") <|
    .field exact_sensorRequest.list .nil).via (fun _ => rfl) fun _ => rfl

theorem exact_listRequest : listRequest.Exact :=
  (Exact.record (exact_natural "u64") .nil).via (fun _ => rfl) fun _ => rfl

theorem exact_request : request.Exact := by
  refine (Exact.choice (.data exact_sensorRequest <| .data exact_dataRequest <|
    .data exact_bulkRequest <| .data exact_listRequest .nil) (by decide)).via
      (fun r => ?_) fun b => ?_
  · cases r <;> rfl
  · rcases b with r | r | r | r | ⟨⟨⟩⟩ <;> rfl

theorem exact_returnCode : returnCode.Exact := by
  refine (Exact.choice (.bare <| .bare <| .bare <| .bare <| .bare <| .bare <| .bare .nil)
    (by decide)).via (fun code => ?_) fun b => ?_
  · cases code <;> rfl
  · rcases b with _ | _ | _ | _ | _ | _ | _ | ⟨⟨⟩⟩ <;> rfl

theorem exact_sensorResponse : sensorResponse.Exact :=
  (Exact.record (exact_natural "u64") <| .field exact_channelKey <|
    .field exact_packet.list <| .field exact_returnCode .nil).via (fun _ => rfl) fun _ => rfl

theorem exact_dataResponse : dataResponse.Exact :=
  (Exact.record (exact_natural "u64") <| .field exact_text <|
    .field exact_packet.list <| .field exact_returnCode .nil).via (fun _ => rfl) fun _ => rfl

theorem exact_bulkResponse : bulkResponse.Exact :=
  (Exact.record (exact_natural "u64") <| .field exact_sensorResponse.list <|
    .field exact_returnCode .nil).via (fun _ => rfl) fun _ => rfl

theorem exact_listResponse : listResponse.Exact :=
  (Exact.record (exact_natural "u64") <| .field exact_channelKey.list <|
    .field exact_returnCode .nil).via (fun _ => rfl) fun _ => rfl

theorem exact_failureResponse : failureResponse.Exact :=
  (Exact.record (exact_natural "u64") <| .field exact_returnCode <|
    .field exact_text .nil).via (fun _ => rfl) fun _ => rfl

theorem exact_response : response.Exact := by
  refine (Exact.choice (.data exact_sensorResponse <| .data exact_dataResponse <|
    .data exact_bulkResponse <| .data exact_listResponse <|
    .data exact_failureResponse .nil) (by decide)).via (fun r => ?_) fun b => ?_
  · cases r <;> rfl
  · rcases b with r | r | r | r | r | ⟨⟨⟩⟩ <;> rfl

end Form

/-! ## Kinds of messages -/

/-- The messages that are sent. -/
inductive MessageKind where
  | sensorRequest
  | dataRequest
  | bulkRequest
  | listRequest
  | request
  | sensorResponse
  | dataResponse
  | bulkResponse
  | listResponse
  | failureResponse
  | response
  | packet
  | channelKey
deriving DecidableEq

namespace MessageKind

/-- The messages of a kind. -/
def Message : MessageKind → Type
  | sensorRequest => SensorRequest
  | dataRequest => DataRequest
  | bulkRequest => BulkRequest
  | listRequest => ListRequest
  | request => Request
  | sensorResponse => SensorResponse
  | dataResponse => DataResponse
  | bulkResponse => BulkResponse
  | listResponse => ListResponse
  | failureResponse => FailureResponse
  | response => Response
  | packet => Packet
  | channelKey => ChannelKey

/-- How the messages of a kind are written. -/
def form : (kind : MessageKind) → Form kind.Message
  | sensorRequest => Form.sensorRequest
  | dataRequest => Form.dataRequest
  | bulkRequest => Form.bulkRequest
  | listRequest => Form.listRequest
  | request => Form.request
  | sensorResponse => Form.sensorResponse
  | dataResponse => Form.dataResponse
  | bulkResponse => Form.bulkResponse
  | listResponse => Form.listResponse
  | failureResponse => Form.failureResponse
  | response => Form.response
  | packet => Form.packet
  | channelKey => Form.channelKey

theorem exact_form (kind : MessageKind) : kind.form.Exact := by
  cases kind with
  | sensorRequest => exact Form.exact_sensorRequest
  | dataRequest => exact Form.exact_dataRequest
  | bulkRequest => exact Form.exact_bulkRequest
  | listRequest => exact Form.exact_listRequest
  | request => exact Form.exact_request
  | sensorResponse => exact Form.exact_sensorResponse
  | dataResponse => exact Form.exact_dataResponse
  | bulkResponse => exact Form.exact_bulkResponse
  | listResponse => exact Form.exact_listResponse
  | failureResponse => exact Form.exact_failureResponse
  | response => exact Form.exact_response
  | packet => exact Form.exact_packet
  | channelKey => exact Form.exact_channelKey

theorem faithful_form (kind : MessageKind) : kind.form.Faithful :=
  kind.exact_form.toFaithful

end MessageKind

/-! ## Behind a header -/

namespace Form

variable {α : Type} {form : Form α} {a : α}

/-- Encoding fails for no other reason than the number of bytes. -/
theorem Faithful.encodeBinary_eq (h : form.Faithful) (a : α) :
    form.encodeBinary a =
      if maxBytes < (form.toBinary a).length then .error (.binary .tooLarge)
      else .ok (Binary.bytesOfNat 2 protocolVersion ++ form.toBinary a) := by
  rw [encodeBinary, h.length_toBinary]

/-- Behind the header of this version, the body alone decides. -/
theorem decodeBinary_header (form : Form α) (body : List UInt8) :
    form.decodeBinary (Binary.bytesOfNat 2 protocolVersion ++ body) =
      match form.ofBinary body with
      | .error fault => .error (.binary fault)
      | .ok (a, []) => .ok a
      | .ok (_, _ :: _) => .error (.binary .trailingBytes) := by
  have hversion : Binary.natOfBytes [1, 0] = protocolVersion := rfl
  show form.decodeBinary (1 :: 0 :: body) = _
  rcases hread : form.ofBinary body with fault | ⟨a, _ | ⟨b, rest⟩⟩ <;>
    simp only [decodeBinary, hversion, ne_eq, not_true_eq_false, if_false, hread]

/-- Bytes are decoded if they are a header and a body that is read to its end. -/
theorem decodeBinary_eq_ok_iff {bs : List UInt8} : form.decodeBinary bs = .ok a ↔
    ∃ body, bs = Binary.bytesOfNat 2 protocolVersion ++ body ∧
      form.ofBinary body = .ok (a, []) := by
  constructor
  · intro hdecode
    rcases bs with _ | ⟨low, _ | ⟨high, body⟩⟩
    · cases hdecode
    · cases hdecode
    · by_cases hversion : Binary.natOfBytes [low, high] = protocolVersion
      · have hheader := Binary.bytesOfNat_natOfBytes [low, high]
        rw [hversion] at hheader
        have hsplit : low :: high :: body = Binary.bytesOfNat 2 protocolVersion ++ body :=
          congrArg (· ++ body) hheader.symm
        rw [hsplit, decodeBinary_header] at hdecode
        refine ⟨body, hsplit, ?_⟩
        split at hdecode
        · cases hdecode
        · rename_i a' hread
          cases hdecode
          exact hread
        · cases hdecode
      · rw [decodeBinary, if_pos hversion] at hdecode
        cases hdecode
  · rintro ⟨body, rfl, hread⟩
    rw [decodeBinary_header, hread]

/-- A message is read back from its bytes, of which there may be as many as lengths can tell. -/
theorem Faithful.decodeBinary_of_size (h : form.Faithful) (hsize : form.size a < 2 ^ 64) :
    form.decodeBinary (Binary.bytesOfNat 2 protocolVersion ++ form.toBinary a) = .ok a := by
  have hread := h.ofBinary_append a hsize []
  rw [List.append_nil] at hread
  exact decodeBinary_eq_ok_iff.mpr ⟨_, rfl, hread⟩

theorem Faithful.decodeBinary_toBinary (h : form.Faithful)
    (hsize : (form.toBinary a).length ≤ maxBytes) :
    form.decodeBinary (Binary.bytesOfNat 2 protocolVersion ++ form.toBinary a) = .ok a := by
  have hmax : maxBytes < 2 ^ 64 := by decide
  rw [h.length_toBinary] at hsize
  exact h.decodeBinary_of_size (by omega)

/-- Bytes that are decoded are the header and the bytes of the message. -/
theorem Exact.decodeBinary_eq_ok (h : form.Exact) {bs : List UInt8}
    (hdecode : form.decodeBinary bs = .ok a) :
    bs = Binary.bytesOfNat 2 protocolVersion ++ form.toBinary a := by
  obtain ⟨body, hbs, hread⟩ := decodeBinary_eq_ok_iff.mp hdecode
  rw [hbs, h.ofBinary_eq_ok hread, List.append_nil]

end Form

/-- A message of any kind is refused if its body takes too many bytes.  Else it is encoded, and what
comes out is decoded to the same message. -/
theorem encodeBinary_decodeBinary (kind : MessageKind) (m : kind.Message) :
    if Form.maxBytes < (kind.form.toBinary m).length then
      kind.form.encodeBinary m = .error (.binary .tooLarge)
    else ∃ bs, kind.form.encodeBinary m = .ok bs ∧ kind.form.decodeBinary bs = .ok m := by
  have h := kind.faithful_form
  rw [h.encodeBinary_eq]
  by_cases hsize : Form.maxBytes < (kind.form.toBinary m).length
  · rw [if_pos hsize, if_pos hsize]
  · rw [if_neg hsize, if_neg hsize]
    exact ⟨_, rfl, h.decodeBinary_toBinary (Nat.le_of_not_lt hsize)⟩

/-- Bytes of a size that may be sent, if they are decoded to a message, are what that message is
encoded to, and no other bytes are decoded to the same message. -/
theorem decodeBinary_encodeBinary (kind : MessageKind) {bs : List UInt8} {m : kind.Message}
    (hsize : (bs.drop 2).length ≤ Form.maxBytes) (hdecode : kind.form.decodeBinary bs = .ok m) :
    kind.form.encodeBinary m = .ok bs ∧
      ∀ bs', kind.form.decodeBinary bs' = .ok m → bs' = bs := by
  have h := kind.exact_form
  have heq := h.decodeBinary_eq_ok hdecode
  refine ⟨?_, fun bs' hdecode' => (h.decodeBinary_eq_ok hdecode').trans heq.symm⟩
  have hbody : bs.drop 2 = kind.form.toBinary m := by
    rw [heq]
    rfl
  rw [hbody] at hsize
  rw [h.encodeBinary_eq, if_neg (Nat.not_lt.mpr hsize), heq]

/-- A request by name, with a letter of two bytes in the name and times on both sides of zero. -/
theorem decodeBinary_encodeBinary_request :
    let bs : List UInt8 :=
      [1, 0] ++ [1, 0, 0, 0] ++ [7, 0, 0, 0, 0, 0, 0, 0] ++
        [3, 0, 0, 0, 0, 0, 0, 0] ++ [0xC3, 0xA9, 0x2E] ++
        [0xFF, 0xFF, 0xFF, 0xFF, 0xFF, 0xFF, 0xFF, 0xFF] ++ [2, 0, 0, 0, 0, 0, 0, 0]
    let r : Request := .data ⟨7, "é.", -1, 2⟩
    (bs.drop 2).length ≤ Form.maxBytes ∧ Form.request.decodeBinary bs = .ok r ∧
      Form.request.encodeBinary r = .ok bs ∧
      ∀ bs', Form.request.decodeBinary bs' = .ok r → bs' = bs := by
  intro bs r
  have hsize : (bs.drop 2).length ≤ Form.maxBytes := by decide
  have hdecode : Form.request.decodeBinary bs = .ok r := by rfl
  exact ⟨hsize, hdecode, decodeBinary_encodeBinary .request hsize hdecode⟩

end WaveCache.Wire
