import WaveCache.Proofs.Wire.Damage
import WaveCache.Proofs.Wire.TextRoundTrip

/-!
# Packets from bytes

A packet is sent as its fields without its end, and a decoder makes a packet of the fields that it
reads.  So bytes are decoded to a packet if they hold the fields of one, in either encoding
(`decode_packet_eq_ok_iff`), and fields that make no packet are refused with the fault of the first
check that they fail (`decode_packet_eq_error`).

`MessageKind.packets` collects the packets of a message, however deep they lie in it.  A packet
carries the proof that it passed the checks, so a decoder has no way around them.  `packets_sound`
says what holds of a packet, whether it was made from its parts or came out of a message.
-/

namespace WaveCache.Wire

namespace Form

/-! ## Checked forms -/

section Checked

variable {α β γ : Type} {written : Form γ} {form : Form β} {unwrap : α → γ}
  {wrap : β → Except PacketError α} {encoding : Encoding} {bs : List UInt8} {a : α} {b : β}
  {error : PacketError}

theorem decode_checked_eq_ok_iff :
    (written.checked form unwrap wrap).decode encoding bs = .ok a ↔
    ∃ b, form.decode encoding bs = .ok b ∧ wrap b = .ok a := by
  cases encoding with
  | binary =>
    simp only [decode, decodeBinary_eq_ok_iff]
    constructor
    · rintro ⟨body, hbs, hread⟩
      obtain ⟨b, hform, hwrap⟩ := ofBinary_checked_eq_ok_iff.mp hread
      exact ⟨b, ⟨body, hbs, hform⟩, hwrap⟩
    · rintro ⟨b, ⟨body, hbs, hform⟩, hwrap⟩
      exact ⟨body, hbs, ofBinary_checked_eq_ok_iff.mpr ⟨b, hform, hwrap⟩⟩
  | text =>
    simp only [decode, decodeText_eq_ok_iff]
    constructor
    · rintro ⟨hne, rest, hread, hrest⟩
      obtain ⟨b, hform, hwrap⟩ := ofJson_checked_eq_ok_iff.mp hread
      exact ⟨b, ⟨hne, rest, hform, hrest⟩, hwrap⟩
    · rintro ⟨b, ⟨hne, rest, hform, hrest⟩, hwrap⟩
      exact ⟨hne, rest, ofJson_checked_eq_ok_iff.mpr ⟨b, hform, hwrap⟩, hrest⟩

/-- How a decoder refuses fields that make no packet. -/
def refusal (error : PacketError) : Encoding → CodecError
  | .binary => .binary (.badPacket error)
  | .text => .text (.badPacket error)

theorem decode_checked_eq_error (hdecode : form.decode encoding bs = .ok b)
    (hwrap : wrap b = .error error) :
    (written.checked form unwrap wrap).decode encoding bs = .error (refusal error encoding) := by
  cases encoding with
  | binary =>
    obtain ⟨body, rfl, hread⟩ := decodeBinary_eq_ok_iff.mp hdecode
    exact decodeBinary_of_fault (ofBinary_checked_eq_error hread hwrap)
  | text =>
    obtain ⟨hne, rest, hread, -⟩ := decodeText_eq_ok_iff.mp hdecode
    rw [decode, decodeText, if_neg (mt List.isEmpty_iff.mp hne),
      ofJson_checked_eq_error hread hwrap]
    rfl

end Checked

/-! ## Packets -/

variable {encoding : Encoding} {bs : List UInt8} {p : Packet}

/-- Bytes are decoded to a packet if they are decoded to its fields. -/
theorem decode_packet_eq_ok_iff : packet.decode encoding bs = .ok p ↔
    packetFields.decode encoding bs = .ok (p.channel, p.start, p.rate, p.samples, ()) := by
  refine decode_checked_eq_ok_iff.trans ?_
  constructor
  · rintro ⟨⟨channel, start, rate, samples, ⟨⟩⟩, hdecode, hmake⟩
    obtain ⟨rfl, rfl, rfl, rfl⟩ := Packet.make_eq_ok_iff.mp hmake
    exact hdecode
  · intro hdecode
    exact ⟨_, hdecode, p.make_parts⟩

theorem decode_packet_eq_error {channel : ChannelKey} {start : Micros} {rate : Binary64}
    {samples : List Binary64} {error : PacketError}
    (hdecode : packetFields.decode encoding bs = .ok (channel, start, rate, samples, ()))
    (hrefused : Packet.Refused start rate samples error) :
    packet.decode encoding bs = .error (refusal error encoding) :=
  decode_checked_eq_error hdecode (Packet.make_eq_error_iff.mpr hrefused)

end Form

/-! ## Messages with packets -/

/-- The packets in the parts of an answer to a bulk request. -/
def bulkPackets (r : BulkResponse) : List Packet :=
  r.responses.flatMap SensorResponse.packets

/-- The packets in a message, at any depth. -/
def MessageKind.packets : (kind : MessageKind) → kind.Message → List Packet
  | packet, p => [p]
  | sensorResponse, (r : SensorResponse) => r.packets
  | dataResponse, (r : DataResponse) => r.packets
  | bulkResponse, r => bulkPackets r
  | response, r =>
    match r with
    | .sensor r => r.packets
    | .data r => r.packets
    | .bulk r => bulkPackets r
    | .channelList _ | .failure _ => []
  | sensorRequest, _ | dataRequest, _ | bulkRequest, _ | listRequest, _ | request, _
  | listResponse, _ | failureResponse, _ | channelKey, _ => []

/-- A packet is sound, whether it was made from its parts or was decoded, alone or anywhere in a
message.  Parts make a packet unless they fail one of four checks, and the first check that they
fail is the error.  A decoder makes packets in no other way: it decodes the fields, and refuses
those that make no packet with the same error. -/
theorem packets_sound :
    (∀ channel start rate samples,
      (∀ p, Packet.make channel start rate samples = .ok p →
        p.channel = channel ∧ p.start = start ∧ p.rate = rate ∧ p.samples = samples ∧ p.Sound) ∧
      ∀ error, Packet.make channel start rate samples = .error error ↔
        Packet.Refused start rate samples error) ∧
    (∀ rate, (Packet.elapsed rate 1).isFinite = true ∧ Packet.span rate 1 = 0) ∧
    (∀ (kind : MessageKind) encoding bs m, kind.form.decode encoding bs = .ok m →
      ∀ p ∈ kind.packets m, p.Sound) ∧
    (∀ encoding bs p, Form.packet.decode encoding bs = .ok p ↔
      Form.packetFields.decode encoding bs = .ok (p.channel, p.start, p.rate, p.samples, ())) ∧
    ∀ encoding bs channel start rate samples error,
      Form.packetFields.decode encoding bs = .ok (channel, start, rate, samples, ()) →
      Packet.Refused start rate samples error →
      Form.packet.decode encoding bs = .error (Form.refusal error encoding) := by
  refine ⟨fun channel start rate samples => ⟨fun p hmake => ?_, fun error => ?_⟩,
    Packet.elapsed_one, fun kind encoding bs m _ p _ => p.sound, fun encoding bs p => ?_, ?_⟩
  · obtain ⟨hchannel, hstart, hrate, hsamples⟩ := Packet.make_eq_ok_iff.mp hmake
    exact ⟨hchannel, hstart, hrate, hsamples, p.sound⟩
  · exact Packet.make_eq_error_iff
  · exact Form.decode_packet_eq_ok_iff
  · intro encoding bs channel start rate samples error
    exact Form.decode_packet_eq_error

end WaveCache.Wire
