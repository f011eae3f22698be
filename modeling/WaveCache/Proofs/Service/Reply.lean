import WaveCache.Proofs.Wire.Faults
import WaveCache.Proofs.Wire.TextRoundTrip
import WaveCache.Service.Answer

/-!
# Every request is replied to

Bytes convey a response if they are not empty and are read as the response.  Every response is
conveyed as text.  In bytes it is, unless it is too large, and then a failure is conveyed in its
place: the details of a failure are short, those that name an error in the request as well.

So whatever a peer sends, it gets back a response that fits: one of the variant that was asked for
and with the identifier of the request, or a failure with that identifier and a code that says why.
-/

namespace WaveCache

open Wire

/-! ## What fits a request -/

/-- Whether a response is of the variant that a request asks for. -/
def Request.Matches : Request → Response → Prop
  | .sensor _, .sensor _ => True
  | .data _, .data _ => True
  | .bulk _, .bulk _ => True
  | .channelList _, .channelList _ => True
  | _, _ => False

/-- A failure with this identifier and this code, whatever its details. -/
def Response.IsFailure (response : Response) (identifier : UInt64) (code : ReturnCode) : Prop :=
  ∃ details, response = .failure ⟨identifier, code, details⟩

theorem Response.IsFailure.identifier_eq {response : Response} {identifier : UInt64}
    {code : ReturnCode} (h : response.IsFailure identifier code) :
    response.identifier = identifier := by
  obtain ⟨details, rfl⟩ := h
  rfl

/-! ## Responses that are conveyed -/

/-- The bytes are there, and they are read as the response. -/
structure Conveys (encoding : Encoding) (bs : List UInt8) (response : Response) : Prop where
  ne_nil : bs ≠ []
  decode_eq : Form.response.decode encoding bs = .ok response

/-- Whether a response has too many bytes to be sent. -/
def Response.TooLarge (response : Response) (encoding : Encoding) : Prop :=
  encoding = .binary ∧ Form.maxBytes < (Form.response.toBinary response).length

instance (response : Response) (encoding : Encoding) : Decidable (response.TooLarge encoding) :=
  inferInstanceAs (Decidable (_ ∧ _))

theorem encode_of_tooLarge {response : Response} {encoding : Encoding}
    (h : response.TooLarge encoding) :
    Form.response.encode response encoding = .error (.binary .tooLarge) := by
  obtain ⟨rfl, hsize⟩ := h
  rw [Form.encode, Form.exact_response.encodeBinary_eq, if_pos hsize]

theorem encode_of_not_tooLarge {response : Response} {encoding : Encoding}
    (h : ¬ response.TooLarge encoding) :
    ∃ bs, Form.response.encode response encoding = .ok bs ∧ Conveys encoding bs response := by
  cases encoding with
  | binary =>
    have hsize : ¬ Form.maxBytes < (Form.response.toBinary response).length :=
      fun hlt => h ⟨rfl, hlt⟩
    rw [Form.encode, Form.exact_response.encodeBinary_eq, if_neg hsize]
    have hdecode := Form.exact_response.decodeBinary_toBinary (Nat.le_of_not_lt hsize)
    exact ⟨_, rfl, List.cons_ne_nil _ _, hdecode⟩
  | text =>
    obtain ⟨hne, hdecode⟩ := (Form.legible_response response).decodeText_encodeText
    exact ⟨_, rfl, hne, hdecode⟩

theorem size_returnCode (code : ReturnCode) : Form.returnCode.size code = 4 := by
  cases code <;> rfl

/-- A failure takes 24 bytes and those of its details. -/
theorem not_tooLarge_failure (identifier : UInt64) (code : ReturnCode) {details : String}
    {encoding : Encoding} (h : encoding = .binary → details.utf8ByteSize ≤ 500) :
    ¬ (Response.failure ⟨identifier, code, details⟩).TooLarge encoding := by
  rintro ⟨rfl, hlt⟩
  have hdetails := h rfl
  have hsize : Form.response.size (.failure ⟨identifier, code, details⟩) =
      4 + (8 + (Form.returnCode.size code + (8 + details.utf8ByteSize + 0))) := rfl
  have hmax : 1000 < Form.maxBytes := by decide
  rw [Form.exact_response.length_toBinary, hsize, size_returnCode] at hlt
  omega

namespace Service

/-- A response is conveyed, or a failure in its place that has the same identifier. -/
theorem encodeResponse_conveys (s : Service) (response : Response) (encoding : Encoding) :
    ∃ response', Conveys encoding (s.encodeResponse response encoding).1 response' ∧
      if response.TooLarge encoding then response'.IsFailure response.identifier .internalError
      else response' = response := by
  by_cases hlarge : response.TooLarge encoding
  · obtain ⟨details, hdetails⟩ : ∃ details, details = (CodecError.binary .tooLarge).message :=
      ⟨_, rfl⟩
    have hshort : details.utf8ByteSize ≤ 500 := hdetails ▸ by decide
    have hfailure : ¬ (Response.failure
        ⟨response.identifier, .internalError, details⟩).TooLarge encoding :=
      not_tooLarge_failure _ _ fun _ => hshort
    obtain ⟨bs, hencode, hconveys⟩ := encode_of_not_tooLarge hfailure
    refine ⟨.failure ⟨response.identifier, .internalError, details⟩, ?_, ?_⟩
    · rw [encodeResponse, encode_of_tooLarge hlarge]
      simp only [← hdetails, hencode]
      exact hconveys
    · rw [if_pos hlarge]
      exact ⟨details, rfl⟩
  · obtain ⟨bs, hencode, hconveys⟩ := encode_of_not_tooLarge hlarge
    refine ⟨response, ?_, by rw [if_neg hlarge]⟩
    rw [encodeResponse, hencode]
    exact hconveys

/-- A failure with short details is conveyed as it is. -/
theorem encodeResponse_failure (s : Service) {identifier : UInt64} {code : ReturnCode}
    {details : String} {encoding : Encoding}
    (h : encoding = .binary → details.utf8ByteSize ≤ 500) :
    ∃ response, Conveys encoding
      (s.encodeResponse (.failure ⟨identifier, code, details⟩) encoding).1 response ∧
      response.IsFailure identifier code := by
  obtain ⟨response, hconveys, hresponse⟩ :=
    s.encodeResponse_conveys (.failure ⟨identifier, code, details⟩) encoding
  rw [if_neg (not_tooLarge_failure identifier code h)] at hresponse
  exact ⟨response, hconveys, details, hresponse⟩

/-- The reply to a request that is refused for a short reason. -/
theorem refuse_conveys (s : Service) (identifier : UInt64) (code : ReturnCode) {reason : String}
    {encoding : Encoding} (h : reason.utf8ByteSize ≤ 500) :
    ∃ response, Conveys encoding (s.refuse identifier code reason encoding).1 response ∧
      response.IsFailure identifier code :=
  encodeResponse_failure _ fun _ => h

/-! ## Answers -/

/-- What a running service answers has the variant that was asked for, and the same identifier. -/
theorem answer_matches (s : Service) (r : Request) :
    r.Matches (s.answer r).1 ∧ (s.answer r).1.identifier = r.identifier := by
  cases r with
  | sensor r =>
    refine ⟨trivial, ?_⟩
    show (s.answerSensor r).1.identifier = r.identifier
    rw [answerSensor]
    split <;> rfl
  | data r =>
    refine ⟨trivial, ?_⟩
    show (s.answerData r).1.identifier = r.identifier
    rw [answerData]
    split
    · rfl
    · split <;> rfl
  | bulk r => exact ⟨trivial, rfl⟩
  | channelList r => exact ⟨trivial, rfl⟩

theorem utf8ByteSize_phase_le (phase : Phase) :
    ("service is " ++ phase.name).utf8ByteSize ≤ 500 := by
  cases phase <;> decide

/-- The reply to a request in bytes, from a peer that may ask. -/
theorem handleMessage_conveys (s : Service) (encoding : Encoding) (bs : List UInt8) :
    ∃ response, Conveys encoding (s.handleMessage encoding bs).1 response ∧
      match Form.request.decode encoding bs with
      | .error _ => response.IsFailure 0 .invalidMessage
      | .ok r =>
        if s.phase ≠ .running then response.IsFailure r.identifier .notRunning
        else if (s.answer r).1.TooLarge encoding then
          response.IsFailure r.identifier .internalError
        else response = (s.answer r).1 := by
  rw [handleMessage]
  cases hdecode : Form.request.decode encoding bs with
  | error error =>
    refine encodeResponse_failure _ ?_
    rintro rfl
    exact Form.terse_request.message_decodeBinary hdecode
  | ok r =>
    by_cases hphase : s.phase = .running
    · have hresponse : (s.handleRequest r).1 = (s.answer r).1 := by
        rw [handleRequest, if_pos hphase]
      obtain ⟨response, hconveys, hreply⟩ :=
        (s.handleRequest r).2.encodeResponse_conveys (s.answer r).1 encoding
      rw [(s.answer_matches r).2] at hreply
      refine ⟨response, ?_, ?_⟩
      · simp only [hresponse]
        exact hconveys
      · simp only [hphase, ne_eq, not_true_eq_false, if_false]
        exact hreply
    · have hresponse : (s.handleRequest r).1 =
          .failure ⟨r.identifier, .notRunning, "service is " ++ s.phase.name⟩ := by
        rw [handleRequest, if_neg hphase]
      simp only [hresponse, hphase, ne_eq, not_false_eq_true, if_true]
      exact encodeResponse_failure _ fun _ => utf8ByteSize_phase_le s.phase

/-- The reply to a peer that may not ask. -/
theorem handle_conveys_of_not_admits (s : Service) {authorizer : Authorizer} {peer : Peer}
    (hadmits : ¬ authorizer.admits peer = true) (encoding : Encoding) (bs : List UInt8) :
    ∃ response, Conveys encoding (s.handle authorizer peer encoding bs).1 response ∧
      response.IsFailure (identifierOf encoding bs) .unauthorized := by
  have hreason : "peer is not authorized".utf8ByteSize ≤ 500 := by decide
  rw [handle, if_neg hadmits]
  exact s.refuse_conveys _ _ hreason

/-- Whatever a peer sends, the reply is there and is read as a response.  If there is no request in
the bytes, it is a failure with the identifier 0.  Else it has the identifier of the request, and it
is what a running service answers, of the variant that was asked for, unless the peer may not ask,
the service does not run, or the answer is too large to be sent in bytes. -/
theorem handle_reply (s : Service) (authorizer : Authorizer) (peer : Peer) (encoding : Encoding)
    (bs : List UInt8) :
    let reply := (s.handle authorizer peer encoding bs).1
    reply ≠ [] ∧ ∃ response, Form.response.decode encoding reply = .ok response ∧
      match Form.request.decode encoding bs with
      | .error _ =>
        response.IsFailure 0 (if authorizer.admits peer then .invalidMessage else .unauthorized)
      | .ok r =>
        response.identifier = r.identifier ∧
        if ¬ authorizer.admits peer then response.IsFailure r.identifier .unauthorized
        else if s.phase ≠ .running then response.IsFailure r.identifier .notRunning
        else if (s.answer r).1.TooLarge encoding then
          response.IsFailure r.identifier .internalError
        else response = (s.answer r).1 ∧ r.Matches response := by
  intro reply
  by_cases hadmits : authorizer.admits peer = true
  · have hreply : reply = (s.handleMessage encoding bs).1 := by
      show (s.handle authorizer peer encoding bs).1 = _
      rw [handle, if_pos hadmits]
    obtain ⟨response, hconveys, hresponse⟩ := s.handleMessage_conveys encoding bs
    rw [← hreply] at hconveys
    refine ⟨hconveys.ne_nil, response, hconveys.decode_eq, ?_⟩
    cases hdecode : Form.request.decode encoding bs with
    | error error =>
      rw [hdecode] at hresponse
      rw [if_pos hadmits]
      exact hresponse
    | ok r =>
      obtain ⟨hmatches, hidentifier⟩ := s.answer_matches r
      rw [hdecode] at hresponse
      simp only [hadmits, not_true_eq_false, if_false]
      simp only at hresponse
      split_ifs at hresponse ⊢ with hphase hlarge
      · exact ⟨hresponse.identifier_eq, hresponse⟩
      · exact ⟨hresponse.identifier_eq, hresponse⟩
      · subst hresponse
        exact ⟨hidentifier, rfl, hmatches⟩
  · obtain ⟨response, hconveys, hresponse⟩ :=
      s.handle_conveys_of_not_admits hadmits encoding bs
    refine ⟨hconveys.ne_nil, response, hconveys.decode_eq, ?_⟩
    rw [identifierOf] at hresponse
    cases hdecode : Form.request.decode encoding bs with
    | error error =>
      rw [hdecode] at hresponse
      rw [if_neg hadmits]
      exact hresponse
    | ok r =>
      rw [hdecode] at hresponse
      refine ⟨hresponse.identifier_eq, ?_⟩
      rw [if_pos hadmits]
      exact hresponse

end Service

end WaveCache
