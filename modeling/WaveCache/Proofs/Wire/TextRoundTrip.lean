import WaveCache.Proofs.Packet.Making
import WaveCache.Proofs.Wire.Json.Legible
import WaveCache.Proofs.Wire.RoundTrip

/-!
# Messages come back from JSON text

Every message is legible.  A double can only get into one as the rate or a sample of a packet, and
those are finite.  So a message of any kind is written as a text, and that text is read as the same
message.
-/

namespace WaveCache.Wire

/-! ## The messages are legible -/

namespace Form

open Fields (legible_nil)

theorem legible_channelKey (k : ChannelKey) : channelKey.Legible k :=
  .via (.record (by decide) <| .field (legible_text _) <| .field (legible_text _) <|
    .field (legible_text _) <| .field (legible_text _) legible_nil) rfl

/-- The rate and the samples of a packet are finite, and its end follows from the rest. -/
theorem legible_packet (p : Packet) : packet.Legible p := by
  have hsamples : (list double).Legible p.samples :=
    .list fun x hx => legible_double (p.isFinite_sample x hx)
  exact .checked (.record (by decide) <| .field (legible_channelKey _) <| .field (legible_time _) <|
    .field (legible_double p.sound.isFinite_rate) <| .field hsamples legible_nil)
    writeAlike_dataPacket p.make_parts

theorem legible_sensorRequest (r : SensorRequest) : sensorRequest.Legible r :=
  .via (.record (by decide) <| .field (legible_natural _ _) <| .field (legible_channelKey _) <|
    .field (legible_time _) <| .field (legible_time _) legible_nil) rfl

theorem legible_dataRequest (r : DataRequest) : dataRequest.Legible r :=
  .via (.record (by decide) <| .field (legible_natural _ _) <| .field (legible_text _) <|
    .field (legible_time _) <| .field (legible_time _) legible_nil) rfl

theorem legible_bulkRequest (r : BulkRequest) : bulkRequest.Legible r :=
  .via (.record (by decide) <| .field (legible_natural _ _) <|
    .field (.list fun r _ => legible_sensorRequest r) legible_nil) rfl

theorem legible_listRequest (r : ListRequest) : listRequest.Legible r :=
  .via (.record (by decide) <| .field (legible_natural _ _) legible_nil) rfl

theorem legible_request (r : Request) : request.Legible r := by
  refine .via (.choice (by decide) ?_) ?_
  · cases r with
    | sensor r => exact legible_sensorRequest r
    | data r => exact legible_dataRequest r
    | bulk r => exact legible_bulkRequest r
    | channelList r => exact legible_listRequest r
  · cases r <;> rfl

theorem legible_returnCode (code : ReturnCode) : returnCode.Legible code := by
  refine .via (.choice (by decide) ?_) ?_
  · cases code <;> exact trivial
  · cases code <;> rfl

theorem legible_sensorResponse (r : SensorResponse) : sensorResponse.Legible r :=
  .via (.record (by decide) <| .field (legible_natural _ _) <| .field (legible_channelKey _) <|
    .field (.list fun p _ => legible_packet p) <|
    .field (legible_returnCode _) legible_nil) rfl

theorem legible_dataResponse (r : DataResponse) : dataResponse.Legible r :=
  .via (.record (by decide) <| .field (legible_natural _ _) <| .field (legible_text _) <|
    .field (.list fun p _ => legible_packet p) <|
    .field (legible_returnCode _) legible_nil) rfl

theorem legible_bulkResponse (r : BulkResponse) : bulkResponse.Legible r :=
  .via (.record (by decide) <| .field (legible_natural _ _) <|
    .field (.list fun r _ => legible_sensorResponse r) <|
    .field (legible_returnCode _) legible_nil) rfl

theorem legible_listResponse (r : ListResponse) : listResponse.Legible r :=
  .via (.record (by decide) <| .field (legible_natural _ _) <|
    .field (.list fun k _ => legible_channelKey k) <|
    .field (legible_returnCode _) legible_nil) rfl

theorem legible_failureResponse (r : FailureResponse) : failureResponse.Legible r :=
  .via (.record (by decide) <| .field (legible_natural _ _) <|
    .field (legible_returnCode _) <| .field (legible_text _) legible_nil) rfl

theorem legible_response (r : Response) : response.Legible r := by
  refine .via (.choice (by decide) ?_) ?_
  · cases r with
    | sensor r => exact legible_sensorResponse r
    | data r => exact legible_dataResponse r
    | bulk r => exact legible_bulkResponse r
    | channelList r => exact legible_listResponse r
    | failure r => exact legible_failureResponse r
  · cases r <;> rfl

end Form

theorem MessageKind.legible_form (kind : MessageKind) (m : kind.Message) : kind.form.Legible m := by
  cases kind with
  | sensorRequest => exact Form.legible_sensorRequest m
  | dataRequest => exact Form.legible_dataRequest m
  | bulkRequest => exact Form.legible_bulkRequest m
  | listRequest => exact Form.legible_listRequest m
  | request => exact Form.legible_request m
  | sensorResponse => exact Form.legible_sensorResponse m
  | dataResponse => exact Form.legible_dataResponse m
  | bulkResponse => exact Form.legible_bulkResponse m
  | listResponse => exact Form.legible_listResponse m
  | failureResponse => exact Form.legible_failureResponse m
  | response => exact Form.legible_response m
  | packet => exact Form.legible_packet m
  | channelKey => exact Form.legible_channelKey m

/-! ## Texts -/

/-- A text is decoded if it is read, with nothing but blanks behind it. -/
theorem Form.decodeText_eq_ok_iff {α : Type} {form : Form α} {bs : List UInt8} {a : α} :
    form.decodeText bs = .ok a ↔
      bs ≠ [] ∧ ∃ rest, form.ofJson bs = .ok (a, rest) ∧ Json.skipSpace rest = [] := by
  rw [decodeText]
  constructor
  · intro hdecode
    split at hdecode
    · cases hdecode
    · rename_i hempty
      refine ⟨fun hnil => hempty (List.isEmpty_iff.mpr hnil), ?_⟩
      split at hdecode
      · cases hdecode
      · rename_i a' rest hread
        split at hdecode
        · rename_i hrest
          cases hdecode
          exact ⟨rest, hread, List.isEmpty_iff.mp hrest⟩
        · cases hdecode
  · rintro ⟨hne, rest, hread, hrest⟩
    rw [if_neg (mt List.isEmpty_iff.mp hne), hread]
    exact if_pos (List.isEmpty_iff.mpr hrest)

/-- A legible message is read back from its text, which is not empty. -/
theorem Form.Legible.decodeText_encodeText {α : Type} {form : Form α} {a : α}
    (h : form.Legible a) :
    form.encodeText a ≠ [] ∧ form.decodeText (form.encodeText a) = .ok a := by
  obtain ⟨b, bs, hbytes, _⟩ := h.starts
  have hread := h.ofJson_append [] .nil
  rw [List.append_nil] at hread
  have hne : form.encodeText a ≠ [] := by
    show form.toJson a ≠ []
    rw [hbytes]
    exact List.cons_ne_nil b bs
  exact ⟨hne, decodeText_eq_ok_iff.mpr ⟨hne, [], hread, rfl⟩⟩

/-- A message of any kind is written as a text, and the text is read as the same message. -/
theorem encodeText_decodeText (kind : MessageKind) (m : kind.Message) :
    ∃ bs, kind.form.encode m .text = .ok bs ∧ kind.form.decode .text bs = .ok m :=
  ⟨kind.form.encodeText m, rfl, (kind.legible_form m).decodeText_encodeText.2⟩

end WaveCache.Wire
