import WaveCache.Proofs.Wire.RoundTrip

/-!
# Damaged messages

No message begins with the bytes of another one.  If a reader of an exact form succeeds on the first
bytes of a message, then what it has read stands in front of the whole message as well, so it is the
message, and no byte of it is missing (`Exact.exists_fault_of_split`).

So bytes that were cut off or that have others behind them are refused, wherever the cut is.
`decodeBinary_damaged` says so of the messages of all kinds and how they are refused.
-/

namespace WaveCache.Wire

namespace Form

variable {α : Type} {form : Form α} {a : α}

/-- The first bytes of a message, if some are missing, are not read. -/
theorem Exact.exists_fault_of_split (h : form.Exact) (hsize : form.size a < 2 ^ 64)
    {front missing : List UInt8} (hmissing : missing ≠ [])
    (hsplit : form.toBinary a = front ++ missing) :
    ∃ fault, form.ofBinary front = .error fault := by
  cases hread : form.ofBinary front with
  | error fault => exact ⟨fault, rfl⟩
  | ok found =>
    obtain ⟨b, rest⟩ := found
    have hwhole : form.toBinary a = form.toBinary b ++ (rest ++ missing) := by
      rw [hsplit, h.ofBinary_eq_ok hread, List.append_assoc]
    have hsize' : form.size b < 2 ^ 64 := by
      have hlength := congrArg List.length hwhole
      rw [List.length_append, h.length_toBinary, h.length_toBinary] at hlength
      omega
    -- the same bytes are read as both values, so nothing is left behind either
    have ha := h.ofBinary_append a hsize []
    rw [List.append_nil, hwhole, h.ofBinary_append b hsize' (rest ++ missing)] at ha
    have hrest : rest ++ missing = [] := (Prod.mk.inj (Except.ok.inj ha)).2
    exact absurd (List.append_eq_nil_iff.mp hrest).2 hmissing

/-- A body that is not read is not decoded behind a header. -/
theorem decodeBinary_of_fault {body : List UInt8} {fault : BinaryFault}
    (h : form.ofBinary body = .error fault) :
    form.decodeBinary (Binary.bytesOfNat 2 protocolVersion ++ body) = .error (.binary fault) := by
  rw [decodeBinary_header, h]

/-- A body that is not read to its end is not decoded behind a header. -/
theorem decodeBinary_of_rest {body rest : List UInt8} (hrest : rest ≠ [])
    (h : form.ofBinary body = .ok (a, rest)) :
    form.decodeBinary (Binary.bytesOfNat 2 protocolVersion ++ body) =
      .error (.binary .trailingBytes) := by
  obtain ⟨b, rest, rfl⟩ := List.exists_cons_of_ne_nil hrest
  rw [decodeBinary_header, h]

/-- What is encoded is a header and the bytes of a message, whose number is bounded. -/
theorem encodeBinary_eq_ok {bs : List UInt8} (hencode : form.encodeBinary a = .ok bs) :
    bs = Binary.bytesOfNat 2 protocolVersion ++ form.toBinary a ∧ form.size a < 2 ^ 64 := by
  rw [encodeBinary] at hencode
  split at hencode
  · cases hencode
  · rename_i hsize
    have hmax : maxBytes < 2 ^ 64 := by decide
    exact ⟨(Except.ok.inj hencode).symm, by omega⟩

end Form

/-- Bytes of a message of any kind are refused if some are missing at their end, and if there are
more of them.  If both bytes of the header are there, the fault is one of the body. -/
theorem decodeBinary_damaged (kind : MessageKind) {m : kind.Message} {bs : List UInt8}
    (hencode : kind.form.encodeBinary m = .ok bs) :
    (∀ front, front <+: bs → front ≠ bs →
      (front.length = 0 → kind.form.decodeBinary front = .error .emptyMessage) ∧
      (front.length = 1 → kind.form.decodeBinary front = .error .truncated) ∧
      (2 ≤ front.length → ∃ fault, kind.form.decodeBinary front = .error (.binary fault))) ∧
    ∀ extra, extra ≠ [] →
      kind.form.decodeBinary (bs ++ extra) = .error (.binary .trailingBytes) := by
  have h := kind.exact_form
  obtain ⟨rfl, hsize⟩ := Form.encodeBinary_eq_ok hencode
  constructor
  · intro front hfront hne
    refine ⟨fun hlength => ?_, fun hlength => ?_, fun hlength => ?_⟩
    · rw [List.length_eq_zero_iff.mp hlength]
      rfl
    · obtain ⟨b, rfl⟩ := List.length_eq_one_iff.mp hlength
      rfl
    · -- the header is whole, so what is missing is missing from the body
      obtain ⟨body, rfl⟩ : Binary.bytesOfNat 2 protocolVersion <+: front :=
        List.prefix_of_prefix_length_le (List.prefix_append _ _) hfront hlength
      obtain ⟨missing, hsplit⟩ := hfront
      have hmissing : missing ≠ [] := by
        rintro rfl
        rw [List.append_nil] at hsplit
        exact hne hsplit
      have hbody : kind.form.toBinary m = body ++ missing := by
        rw [List.append_assoc] at hsplit
        exact (List.append_cancel_left hsplit).symm
      obtain ⟨fault, hfault⟩ := h.exists_fault_of_split hsize hmissing hbody
      exact ⟨fault, Form.decodeBinary_of_fault hfault⟩
  · intro extra hextra
    rw [List.append_assoc]
    exact Form.decodeBinary_of_rest hextra (h.ofBinary_append m hsize extra)

/-- A response with a packet, cut off inside the sample of the packet, and the same response with
one byte too many. -/
theorem decodeBinary_damaged_pulse :
    let key : ChannelKey := ⟨"UU", "FORK", "HHZ", "01"⟩
    let m : Response :=
      .sensor ⟨7, key, [Packet.pulse key (-5) ⟨0x3FF0000000000000⟩ rfl], .success⟩
    ∃ bs, Form.response.encodeBinary m = .ok bs ∧ bs.length = 144 ∧
      (∃ fault, Form.response.decodeBinary (bs.take 135) = .error (.binary fault)) ∧
      Form.response.decodeBinary (bs ++ [0]) = .error (.binary .trailingBytes) := by
  intro key m
  have hencode : ∃ bs, Form.response.encodeBinary m = .ok bs ∧ bs.length = 144 := ⟨_, rfl, rfl⟩
  obtain ⟨bs, hencode, hlength⟩ := hencode
  have h := decodeBinary_damaged .response hencode
  have htake : (bs.take 135).length = 135 := by
    rw [List.length_take]
    omega
  refine ⟨bs, hencode, hlength, (h.1 (bs.take 135) (List.take_prefix 135 bs) ?_).2.2 ?_,
    h.2 [0] (List.cons_ne_nil 0 [])⟩
  · intro heq
    rw [heq] at htake
    omega
  · omega

end WaveCache.Wire
