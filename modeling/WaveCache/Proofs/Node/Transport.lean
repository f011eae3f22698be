import WaveCache.Proofs.Node.Serving
import WaveCache.Proofs.Service.Reply

/-!
# Transport

What is encoded is decoded to the same message, in either encoding.  So a packet in bytes is taken
in as the packet is (`ingestBytes_encode`), and a request in bytes is answered as the request is
(`handleMessage_encode`), unless the response is too large to be sent in bytes.  Between a client
and the service of a node that serves there is no more than that: the bus loses no packet as long as
no more frames are unread than it retains, and the exchange gives the reply to the client that
asked.
-/

namespace WaveCache

open Wire

/-- What was encoded is decoded to the same message. -/
theorem Wire.Form.decode_of_encode {α : Type} {form : Form α} {a : α} {encoding : Encoding}
    {bs : List UInt8} (hexact : form.Exact) (hlegible : form.Legible a)
    (h : form.encode a encoding = .ok bs) : form.decode encoding bs = .ok a := by
  cases encoding with
  | binary =>
    rw [encode, hexact.encodeBinary_eq] at h
    split at h
    · cases h
    · rename_i hsize
      cases h
      exact hexact.decodeBinary_toBinary (Nat.le_of_not_lt hsize)
  | text =>
    cases h
    exact hlegible.decodeText_encodeText.2

namespace Service

/-- Every answer has the identifier of its request. -/
theorem identifier_handleRequest (s : Service) (r : Request) :
    (s.handleRequest r).1.identifier = r.identifier := by
  rw [handleRequest]
  by_cases hphase : s.phase = .running
  · rw [if_pos hphase]
    exact (s.answer_matches r).2
  · rw [if_neg hphase]
    rfl

/-- A request in bytes is answered as the request is, unless the response is too large. -/
theorem handleMessage_encode (s : Service) {r : Request} {encoding : Encoding} {bs : List UInt8}
    (h : Form.request.encode r encoding = .ok bs) :
    ∃ response, Form.response.decode encoding (s.handleMessage encoding bs).1 = .ok response ∧
      (s.handleMessage encoding bs).2.store = (s.handleRequest r).2.store ∧
      if (s.handleRequest r).1.TooLarge encoding then
        response.IsFailure r.identifier .internalError
      else response = (s.handleRequest r).1 ∧
        (s.handleMessage encoding bs).2 = (s.handleRequest r).2 := by
  have hmessage : s.handleMessage encoding bs =
      (s.handleRequest r).2.encodeResponse (s.handleRequest r).1 encoding := by
    rw [handleMessage,
      Form.decode_of_encode Form.exact_request (Form.legible_request r) h]
  obtain ⟨response, hconveys, hresponse⟩ :=
    (s.handleRequest r).2.encodeResponse_conveys (s.handleRequest r).1 encoding
  rw [identifier_handleRequest] at hresponse
  rw [hmessage]
  refine ⟨response, hconveys.decode_eq, store_encodeResponse _ _ _, ?_⟩
  by_cases hlarge : (s.handleRequest r).1.TooLarge encoding
  · rw [if_pos hlarge] at hresponse ⊢
    exact hresponse
  · rw [if_neg hlarge] at hresponse ⊢
    obtain ⟨bs', hencode, _⟩ := encode_of_not_tooLarge hlarge
    refine ⟨hresponse, ?_⟩
    rw [encodeResponse, hencode]

end Service

namespace Node

namespace Serving

variable {n : Node}

/-- A request of a client is answered by the service. -/
theorem request_eq (h : Serving n) {peer : Peer} {r : Request} {payload : List UInt8}
    (hencode : Form.request.encode r n.config.encoding = .ok payload)
    (hadmits : n.config.authorizer.admits peer = true) :
    let timeout := n.config.bus.timeout.toNat
    let service := (n.request peer r).2.service
    service.store = (n.service.handleRequest r).2.store ∧
      ∃ response, (n.request peer r).1 =
        (if min (n.exchange.now + timeout) Exchange.lastDeadline ≤ n.exchange.now then
          .error (.exchange (.timeout timeout))
        else .ok response) ∧
        if (n.service.handleRequest r).1.TooLarge n.config.encoding then
          response.IsFailure r.identifier .internalError
        else response = (n.service.handleRequest r).1 ∧
          service = (n.service.handleRequest r).2 := by
  intro timeout service
  obtain ⟨exchange, _, _, heq⟩ := h.requestBytes_eq peer payload
  obtain ⟨response, hdecode, hstore, hresponse⟩ := n.service.handleMessage_encode hencode
  have hhandled : handled n.config.authorizer n.service ⟨peer, n.config.encoding, payload⟩ =
      n.service.handleMessage n.config.encoding payload := by
    rw [handled, Service.handle, if_pos hadmits]
  have hrequest : n.request peer r = (clientResult n.config.encoding
      (n.requestBytes peer payload).1, (n.requestBytes peer payload).2) := by
    rw [Node.request_eq, hencode]
  rw [heq, hhandled] at hrequest
  have hservice : service = (n.service.handleMessage n.config.encoding payload).2 :=
    congrArg (fun result => result.2.service) hrequest
  rw [hservice, hrequest]
  refine ⟨hstore, response, ?_, hresponse⟩
  show clientResult _ (if _ then _ else _) = _
  split
  · rfl
  · rw [clientResult, hdecode]
    rfl

end Serving

end Node

end WaveCache
