import WaveCache.Proofs.Service.Reply
import WaveCache.Proofs.Wire.Bounds

/-!
# Failures are counted with the codes of replies

`Service.CountsFailures` says with which codes failures were counted on the way from one service to
another.  Its lemmas follow a message: queries count none, a request counts the code of its answer,
and a reply counts one more if a failure has to stand in for the answer.

So a message that fails is counted once, with the code of its reply, unless the answer is a failure
by itself and has too many bytes to be sent as well (`LosesFailure`).  Then two failures are counted
and one is replied.  An answer that fails has fewer bytes than its request, so that takes a request
that is beyond the bound on messages (`LosesFailure.oversized`).
-/

namespace WaveCache

open Wire

/-! ## Counters of failures -/

/-- The code itself, if it is one of a failure. -/
def ReturnCode.failures (code : ReturnCode) : List ReturnCode :=
  if code.isFailure then [code] else []

/-- The failure that an answer is, if another one has to stand in for it. -/
def Response.lostFailures (answer : Response) (encoding : Encoding) : List ReturnCode :=
  if answer.TooLarge encoding then answer.code.failures else []

namespace Metrics

/-- How many failures were counted with a code. -/
def failuresWith (m : Metrics) : ReturnCode → UInt64
  | .success => 0
  | .unknownChannel => 0
  | .invalidRange => m.invalidRange
  | .invalidMessage => m.invalidMessage
  | .notRunning => m.notRunning
  | .unauthorized => m.unauthorized
  | .internalError => m.internalError

/-- Between the first counters and the second, failures were counted with these codes and no others.
-/
structure Counted (m m' : Metrics) (codes : List ReturnCode) : Prop where
  requestsFailed : m'.requestsFailed = m.requestsFailed + .ofNat codes.length
  failuresWith : ∀ code, m'.failuresWith code = m.failuresWith code + .ofNat (codes.count code)

namespace Counted

variable {m m' m'' : Metrics} {codes codes' : List ReturnCode}

theorem trans (h : Counted m m' codes) (h' : Counted m' m'' codes') :
    Counted m m'' (codes ++ codes') where
  requestsFailed := by
    rw [h'.requestsFailed, h.requestsFailed, List.length_append, UInt64.ofNat_add, UInt64.add_assoc]
  failuresWith code := by
    rw [h'.failuresWith, h.failuresWith, List.count_append, UInt64.ofNat_add, UInt64.add_assoc]

/-- No failure. -/
theorem of_failures_eq (hall : m'.requestsFailed = m.requestsFailed)
    (hwith : m'.failuresWith = m.failuresWith) : Counted m m' [] where
  requestsFailed := by
    rw [hall]
    exact (UInt64.add_zero _).symm
  failuresWith code := by
    rw [hwith]
    exact (UInt64.add_zero _).symm

theorem refl (m : Metrics) : Counted m m [] :=
  of_failures_eq rfl rfl

theorem query (m : Metrics) (nanos : Nat) (known : Bool) (packets : Nat) :
    Counted m (m.query nanos known packets) [] :=
  of_failures_eq rfl (funext fun code => by cases code <;> rfl)

theorem requestFailed (m : Metrics) (code : ReturnCode) :
    Counted m (m.requestFailed code) code.failures := by
  constructor
  · cases code with
    | success | unknownChannel => exact (UInt64.add_zero _).symm
    | invalidRange | invalidMessage | notRunning | unauthorized | internalError => rfl
  · intro code'
    cases code <;> cases code' <;>
      simp [Metrics.requestFailed, Metrics.failuresWith, ReturnCode.failures, ReturnCode.isFailure]

/-- One failure more is another count. -/
theorem eq_nil_of_append (h : Counted m m' (codes ++ codes')) (h' : Counted m m' codes')
    (hlength : codes.length ≤ 1) : codes = [] := by
  have hsame := h.requestsFailed.symm.trans h'.requestsFailed
  rw [List.length_append, UInt64.ofNat_add, UInt64.add_right_inj] at hsame
  have hzero : UInt64.ofNat codes.length = 0 := UInt64.add_eq_right.mp hsame
  rw [← UInt64.toNat_inj, UInt64.toNat_ofNat_of_lt' (Nat.lt_of_le_of_lt hlength (by decide))]
    at hzero
  exact List.length_eq_zero_iff.mp hzero

end Counted

end Metrics

namespace Service

/-- The same for the counters of two services, if they have any. -/
def CountsFailures (s t : Service) (codes : List ReturnCode) : Prop :=
  ∀ m, s.metrics = some m → ∃ m', t.metrics = some m' ∧ m.Counted m' codes

namespace CountsFailures

variable {s t u : Service} {codes codes' : List ReturnCode}

theorem refl (s : Service) : CountsFailures s s [] :=
  fun m hm => ⟨m, hm, .refl m⟩

theorem trans (h : CountsFailures s t codes) (h' : CountsFailures t u codes') :
    CountsFailures s u (codes ++ codes') := by
  intro m hm
  obtain ⟨m', hm', hcounted⟩ := h m hm
  obtain ⟨m'', hm'', hcounted'⟩ := h' m' hm'
  exact ⟨m'', hm'', hcounted.trans hcounted'⟩

theorem count {change : Metrics → Metrics} (h : ∀ m : Metrics, m.Counted (change m) codes)
    (s : Service) :
    CountsFailures s (s.count change) codes :=
  fun m hm => ⟨change m, congrArg (Option.map change) hm, h m⟩

/-! ## Requests -/

theorem lookup (s : Service) (key : ChannelKey) (t₀ t₁ : Micros) :
    CountsFailures s (s.lookup key t₀ t₁).2 [] :=
  fun m hm => ⟨_, congrArg (Option.map _) hm, .query m _ _ _⟩

theorem answerSensor (s : Service) (r : SensorRequest) :
    CountsFailures s (s.answerSensor r).2 [] := by
  rw [Service.answerSensor]
  split
  · exact refl s
  · exact lookup s _ _ _

theorem answerData (s : Service) (r : DataRequest) : CountsFailures s (s.answerData r).2 [] := by
  rw [Service.answerData]
  split
  · exact refl s
  · split
    · exact refl s
    · exact lookup s _ _ _

theorem answerAll (s : Service) (rs : List SensorRequest) :
    CountsFailures s (s.answerAll rs).2 [] := by
  induction rs generalizing s with
  | nil => exact refl s
  | cons r rs ih => exact (answerSensor s r).trans (ih _)

theorem answer (s : Service) (r : Request) : CountsFailures s (s.answer r).2 [] := by
  cases r with
  | sensor r => exact answerSensor s r
  | data r => exact answerData s r
  | bulk r => exact answerAll s r.requests
  | channelList r => exact refl s

/-- A request counts the code that it is answered with. -/
theorem handleRequest (s : Service) (r : Request) :
    CountsFailures s (s.handleRequest r).2 (s.handleRequest r).1.code.failures := by
  unfold Service.handleRequest
  by_cases hphase : s.phase = .running
  · rw [if_pos hphase]
    exact (answer s r).trans (count (fun m => .requestFailed m _) _)
  · rw [if_neg hphase]
    exact count (fun m => .requestFailed m _) s

/-- A response counts no failure, unless a failure stands in for it. -/
theorem encodeResponse (s : Service) (response : Response) (encoding : Encoding) :
    CountsFailures s (s.encodeResponse response encoding).2
      (if response.TooLarge encoding then [.internalError] else []) := by
  rw [Service.encodeResponse]
  by_cases hlarge : response.TooLarge encoding
  · rw [encode_of_tooLarge hlarge, if_pos hlarge]
    exact count (fun m => .requestFailed m .internalError) s
  · obtain ⟨bs, hencode, _⟩ := encode_of_not_tooLarge hlarge
    rw [hencode, if_neg hlarge]
    exact refl s

end CountsFailures

/-! ## Replies -/

/-- A failure with short details is counted once and replied as it is. -/
theorem fail_counts (s : Service) {identifier : UInt64} {code : ReturnCode} {details : String}
    {encoding : Encoding} (h : encoding = .binary → details.utf8ByteSize ≤ 500) :
    let reply := (s.count (·.requestFailed code)).encodeResponse
      (.failure ⟨identifier, code, details⟩) encoding
    ∃ response, Conveys encoding reply.1 response ∧
      CountsFailures s reply.2 ([] ++ response.code.failures) := by
  intro reply
  obtain ⟨response, hconveys, hresponse⟩ : ∃ response, Conveys encoding reply.1 response ∧
      response.IsFailure identifier code := encodeResponse_failure _ h
  obtain ⟨_, rfl⟩ := hresponse
  refine ⟨_, hconveys, ?_⟩
  have hcount : CountsFailures s (s.count (·.requestFailed code)) code.failures :=
    .count (fun m => .requestFailed m code) s
  have hencode : CountsFailures (s.count (·.requestFailed code)) reply.2 _ :=
    .encodeResponse _ _ encoding
  rw [if_neg (not_tooLarge_failure identifier code h)] at hencode
  have hboth := hcount.trans hencode
  rwa [List.append_nil] at hboth

/-- What a running service answers counts the failure that is replied, and the one that got lost. -/
theorem answer_counts (s : Service) (hphase : s.phase = .running) (r : Request)
    (encoding : Encoding) :
    let reply := (s.handleRequest r).2.encodeResponse (s.handleRequest r).1 encoding
    ∃ response, Conveys encoding reply.1 response ∧
      CountsFailures s reply.2
        ((s.answer r).1.lostFailures encoding ++ response.code.failures) := by
  intro reply
  have hanswer : (s.handleRequest r).1 = (s.answer r).1 := by rw [handleRequest, if_pos hphase]
  obtain ⟨response, hconveys, hresponse⟩ : ∃ response, Conveys encoding reply.1 response ∧ _ :=
    (s.handleRequest r).2.encodeResponse_conveys (s.handleRequest r).1 encoding
  have hcounts : CountsFailures s reply.2 _ := (CountsFailures.handleRequest s r).trans
    (CountsFailures.encodeResponse (s.handleRequest r).2 (s.handleRequest r).1 encoding)
  -- the reply is kept as it is, only what it is compared with is rewritten
  clear_value reply
  rw [hanswer] at hresponse hcounts
  refine ⟨response, hconveys, ?_⟩
  rw [Response.lostFailures]
  split_ifs at hresponse hcounts ⊢ with hlarge
  · obtain ⟨details, rfl⟩ := hresponse
    exact hcounts
  · subst hresponse
    rwa [List.append_nil] at hcounts

/-- The failures that a message counts beside that of its reply. -/
def lostFailures (s : Service) (authorizer : Authorizer) (peer : Peer) (encoding : Encoding)
    (bs : List UInt8) : List ReturnCode :=
  match Form.request.decode encoding bs with
  | .error _ => []
  | .ok r =>
    if authorizer.admits peer ∧ s.phase = .running then (s.answer r).1.lostFailures encoding else []

/-- A message counts the failure that is replied, and the one that got lost. -/
theorem handle_counts (s : Service) (authorizer : Authorizer) (peer : Peer) (encoding : Encoding)
    (bs : List UInt8) :
    let reply := s.handle authorizer peer encoding bs
    ∃ response, Conveys encoding reply.1 response ∧
      CountsFailures s reply.2
        (s.lostFailures authorizer peer encoding bs ++ response.code.failures) := by
  intro reply
  by_cases hadmits : authorizer.admits peer = true
  case neg =>
    have hshort : "peer is not authorized".utf8ByteSize ≤ 500 := by decide
    have hlost : s.lostFailures authorizer peer encoding bs = [] := by
      rw [lostFailures]
      split
      · rfl
      · exact if_neg fun h => hadmits h.1
    have hreply : reply = s.refuse _ .unauthorized _ encoding := if_neg hadmits
    rw [hreply, hlost]
    exact s.fail_counts fun _ => hshort
  have hreply : reply = s.handleMessage encoding bs := if_pos hadmits
  rw [hreply, handleMessage, lostFailures]
  cases hdecode : Form.request.decode encoding bs with
  | error error =>
    refine s.fail_counts ?_
    rintro rfl
    exact Form.terse_request.message_decodeBinary hdecode
  | ok r =>
    by_cases hphase : s.phase = .running
    · simp only [hadmits, hphase, and_self, if_true]
      exact s.answer_counts hphase r encoding
    · have hrequest : s.handleRequest r =
          (.failure ⟨r.identifier, .notRunning, "service is " ++ s.phase.name⟩,
            s.count (·.requestFailed .notRunning)) := by
        rw [handleRequest, if_neg hphase]
        rfl
      simp only [hrequest, hphase, and_false, if_false]
      exact s.fail_counts fun _ => utf8ByteSize_phase_le s.phase

/-! ## Answers that failed -/

theorem isFailure_lookup (s : Service) (key : ChannelKey) (t₀ t₁ : Micros) :
    (s.lookup key t₀ t₁).1.2.isFailure = false := by
  show (if (s.store.query key t₀ t₁).1.isSome then ReturnCode.success
    else .unknownChannel).isFailure = false
  split <;> rfl

theorem answerSensor_of_isFailure {s : Service} {r : SensorRequest}
    (h : (s.answerSensor r).1.code.isFailure = true) :
    ∃ code, (s.answerSensor r).1 = ⟨r.identifier, r.channel, [], code⟩ := by
  rw [answerSensor] at h ⊢
  by_cases hrange : r.finish < r.start
  · rw [if_pos hrange]
    exact ⟨.invalidRange, rfl⟩
  · rw [if_neg hrange] at h
    exact absurd h (Bool.eq_false_iff.mp (isFailure_lookup s _ _ _))

theorem answerData_of_isFailure {s : Service} {r : DataRequest}
    (h : (s.answerData r).1.code.isFailure = true) :
    ∃ code, (s.answerData r).1 = ⟨r.identifier, r.name, [], code⟩ := by
  rw [answerData] at h ⊢
  by_cases hrange : r.finish < r.start
  · rw [if_pos hrange]
    exact ⟨.invalidRange, rfl⟩
  · rw [if_neg hrange] at h ⊢
    cases hkey : ChannelKey.ofDotted? r.name with
    | none => exact ⟨.invalidMessage, rfl⟩
    | some key =>
      rw [hkey] at h
      exact absurd h (Bool.eq_false_iff.mp (isFailure_lookup s _ _ _))

/-- An answer that failed repeats its request, with no packets and a code in place of the times. -/
theorem size_answer {s : Service} {r : Request} (h : (s.answer r).1.code.isFailure = true) :
    Form.response.size (s.answer r).1 + 4 = Form.request.size r := by
  cases r with
  | sensor r =>
    obtain ⟨code, hanswer⟩ := answerSensor_of_isFailure h
    show Form.response.size (.sensor (s.answerSensor r).1) + 4 = _
    rw [hanswer]
    show 4 + (8 + (Form.channelKey.size r.channel + (8 + (Form.returnCode.size code + 0)))) + 4 =
      4 + (8 + (Form.channelKey.size r.channel + (8 + (8 + 0))))
    rw [size_returnCode]
    omega
  | data r =>
    obtain ⟨code, hanswer⟩ := answerData_of_isFailure h
    show Form.response.size (.data (s.answerData r).1) + 4 = _
    rw [hanswer, size_request_data]
    show 4 + (8 + (8 + r.name.utf8ByteSize + (8 + (Form.returnCode.size code + 0)))) + 4 =
      36 + r.name.utf8ByteSize
    rw [size_returnCode]
    omega
  | bulk r => cases h
  | channelList r => cases h

/-- A failure gets lost only if the message is beyond the bound on messages. -/
theorem oversized_of_lostFailures {s : Service} {authorizer : Authorizer} {peer : Peer}
    {encoding : Encoding} {bs : List UInt8} (h : s.lostFailures authorizer peer encoding bs ≠ []) :
    encoding = .binary ∧ Form.maxBytes < (bs.drop 2).length := by
  rw [lostFailures] at h
  cases hdecode : Form.request.decode encoding bs with
  | error error => simp [hdecode] at h
  | ok r =>
    simp only [hdecode, Response.lostFailures, ReturnCode.failures, ne_eq, ite_eq_right_iff,
      not_forall] at h
    obtain ⟨_, ⟨rfl, hlarge⟩, hfailure, _⟩ := h
    have hsize := size_answer hfailure
    rw [Form.exact_response.length_toBinary] at hlarge
    rw [Form.exact_request.decodeBinary_eq_ok hdecode]
    show _ ∧ Form.maxBytes < (Form.request.toBinary r).length
    rw [Form.exact_request.length_toBinary]
    exact ⟨rfl, by omega⟩

theorem length_lostFailures_le (s : Service) (authorizer : Authorizer) (peer : Peer)
    (encoding : Encoding) (bs : List UInt8) :
    (s.lostFailures authorizer peer encoding bs).length ≤ 1 := by
  rw [lostFailures]
  cases Form.request.decode encoding bs with
  | error error => exact Nat.zero_le 1
  | ok r =>
    simp only [Response.lostFailures, ReturnCode.failures]
    split_ifs <;> simp

/-- Whatever a peer sends, the reply is read as a response, and the failures that were counted are
that of the response, under its code, if it is one, and those that got lost.  That is the failure of
an answer for which another one stands in.  So the counters say what was replied exactly if nothing
got lost, as is so whenever the message keeps to the bound on messages. -/
theorem handle_counts_failures (s : Service) {m : Metrics} (hm : s.metrics = some m)
    (authorizer : Authorizer) (peer : Peer) (encoding : Encoding) (bs : List UInt8) :
    let reply := s.handle authorizer peer encoding bs
    let lost := s.lostFailures authorizer peer encoding bs
    ∃ response m', Form.response.decode encoding reply.1 = .ok response ∧
      reply.2.metrics = some m' ∧ m.Counted m' (lost ++ response.code.failures) ∧
      (m.Counted m' response.code.failures ↔ lost = []) ∧
      (lost ≠ [] → encoding = .binary ∧ Form.maxBytes < (bs.drop 2).length) := by
  intro reply lost
  obtain ⟨response, hconveys, hcounts⟩ := s.handle_counts authorizer peer encoding bs
  obtain ⟨m', hm', hcounted⟩ := hcounts m hm
  refine ⟨response, m', hconveys.decode_eq, hm', hcounted, ⟨fun h => ?_, fun hlost => ?_⟩,
    oversized_of_lostFailures⟩
  · exact hcounted.eq_nil_of_append h (length_lostFailures_le ..)
  · rwa [show s.lostFailures authorizer peer encoding bs = [] from hlost] at hcounted

/-- A stretch of time that ends before it starts is counted once. -/
theorem handle_counts_failures_once :
    let s : Service := ⟨.standard, .empty 10000 300, .running, some .zero⟩
    let bs := Binary.bytesOfNat 2 protocolVersion ++
      Form.request.toBinary (.data ⟨7, "IU.ANMO.BHZ.00", 2, 1⟩)
    let reply := s.handle .everyone ⟨"p"⟩ .binary bs
    s.metrics = some .zero ∧ ∃ response m', Form.response.decode .binary reply.1 = .ok response ∧
      reply.2.metrics = some m' ∧ response.code = .invalidRange ∧ m'.requestsFailed = 1 ∧
      m'.failuresWith .invalidRange = 1 ∧ m'.failuresWith .internalError = 0 := by
  intro s bs reply
  have hm : s.metrics = some .zero := rfl
  have hlost : s.lostFailures .everyone ⟨"p"⟩ .binary bs = [] := by decide +kernel
  have hcode :
      (Form.response.decode .binary reply.1).toOption.map (·.code) = some .invalidRange := by
    decide +kernel
  obtain ⟨response, m', hresponse, hm', _, hcounted, _⟩ :=
    handle_counts_failures s hm .everyone ⟨"p"⟩ .binary bs
  have hcounted := hcounted.mpr hlost
  rw [hresponse] at hcode
  have hcode : response.code = .invalidRange := Option.some.inj hcode
  rw [hcode] at hcounted
  exact ⟨hm, response, m', hresponse, hm', hcode, hcounted.requestsFailed,
    hcounted.failuresWith .invalidRange, hcounted.failuresWith .internalError⟩

/-- A message with a name that may not be sent, and a stretch of time that ends before it starts. -/
theorem handle_data_of_size {name : String} (hsize : name.utf8ByteSize = Form.maxBytes) :
    let s : Service := ⟨.standard, .empty 10000 300, .running, some .zero⟩
    let bs := Binary.bytesOfNat 2 protocolVersion ++ Form.request.toBinary (.data ⟨7, name, 2, 1⟩)
    let reply := s.handle .everyone ⟨"p"⟩ .binary bs
    ∃ response, Form.response.decode .binary reply.1 = .ok response ∧
      response.code = .internalError ∧ reply.2.metrics =
        some { Metrics.zero with requestsFailed := 2, invalidRange := 1, internalError := 1 } := by
  intro s bs reply
  let answer : Response := .data ⟨7, name, [], .invalidRange⟩
  let failed := s.count (·.requestFailed .invalidRange)
  have hmax : Form.maxBytes + 36 < 2 ^ 64 := by decide
  have hdecode : Form.request.decodeBinary bs = .ok (.data ⟨7, name, 2, 1⟩) := by
    refine Form.exact_request.decodeBinary_of_size ?_
    rw [size_request_data, hsize]
    omega
  have hlarge : answer.TooLarge .binary := by
    refine ⟨rfl, ?_⟩
    rw [Form.exact_response.length_toBinary]
    show Form.maxBytes < 4 + (8 + (8 + name.utf8ByteSize + (8 + (4 + 0))))
    omega
  have hreply : reply = failed.encodeResponse answer .binary := by
    show s.handleMessage .binary bs = _
    rw [handleMessage, Form.decode, hdecode]
    rfl
  obtain ⟨response, hconveys, hresponse⟩ := failed.encodeResponse_conveys answer .binary
  rw [if_pos hlarge] at hresponse
  obtain ⟨details, rfl⟩ := hresponse
  rw [hreply]
  refine ⟨_, hconveys.decode_eq, rfl, ?_⟩
  rw [encodeResponse, encode_of_tooLarge hlarge]
  rfl

/-- With the longest name that could be sent, two failures are counted and one is replied. -/
theorem handle_counts_failures_twice :
    let s : Service := ⟨.standard, .empty 10000 300, .running, some .zero⟩
    let bs := Binary.bytesOfNat 2 protocolVersion ++
      Form.request.toBinary (.data ⟨7, nameOfLength Form.maxBytes, 2, 1⟩)
    let reply := s.handle .everyone ⟨"p"⟩ .binary bs
    ∃ response, Form.response.decode .binary reply.1 = .ok response ∧
      response.code = .internalError ∧ reply.2.metrics =
        some { Metrics.zero with requestsFailed := 2, invalidRange := 1, internalError := 1 } :=
  handle_data_of_size (utf8ByteSize_nameOfLength Form.maxBytes)

end Service

end WaveCache
