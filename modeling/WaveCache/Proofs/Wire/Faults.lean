import Mathlib.Data.Nat.Digits.Defs
import Mathlib.Data.String.Basic
import WaveCache.Proofs.Wire.RoundTrip

/-!
# The messages of faults are short

A fault in the bytes of a request names positions, lengths and the numbers of variants, and nothing
else of what was sent.  All of these fit eight bytes, so the message of such a fault is short,
however many bytes there are.
-/

namespace WaveCache

/-! ## Numbers in messages -/

theorem utf8Len_le (cs : List Char) : String.utf8Len cs ≤ 4 * cs.length := by
  induction cs with
  | nil => exact Nat.le_refl _
  | cons c cs ih =>
    have hc := Char.utf8Size_le_four c
    rw [String.utf8Len_cons, List.length_cons]
    omega

/-- A number of eight bytes has at most twenty digits. -/
theorem utf8ByteSize_toString_le {n : Nat} (h : n ≤ 256 ^ 8) : (toString n).utf8ByteSize ≤ 80 := by
  have hlt : n < 10 ^ 20 := Nat.lt_of_le_of_lt h (by decide)
  have hlength : (Nat.toDigits 10 n).length ≤ 20 := Nat.toDigits_length 10 n 20 (by decide) hlt
  have hsize := utf8Len_le (Nat.toDigits 10 n)
  show n.repr.utf8ByteSize ≤ _
  rw [Nat.repr, String.utf8ByteSize_ofList]
  omega

theorem utf8ByteSize_append_le {s t : String} {m n : Nat} (hs : s.utf8ByteSize ≤ m)
    (ht : t.utf8ByteSize ≤ n) : (s ++ t).utf8ByteSize ≤ m + n := by
  rw [String.utf8ByteSize_append]
  omega

/-! ## Positions in texts -/

namespace Text.Utf8

/-- The numbers in a fault are no greater than these. -/
def Fault.Within (fault : Fault) (index length : Nat) : Prop :=
  fault.index ≤ index ∧ ∀ l ∈ fault.length, l ≤ length

theorem Fault.Within.mono {fault : Fault} {index length index' length' : Nat}
    (h : fault.Within index length) (hindex : index ≤ index') (hlength : length ≤ length') :
    fault.Within index' length' :=
  ⟨Nat.le_trans h.1 hindex, fun l hl => Nat.le_trans (h.2 l hl) hlength⟩

theorem within_search (p : Progress) (bs : List UInt8) :
    (p.search bs).Within (p.index + p.seen + bs.length) (p.seen + bs.length) := by
  fun_induction Progress.search p bs with
  | case1 p => exact ⟨Nat.le_add_right p.index p.seen, fun _ h => nomatch h⟩
  | case2 p b bs =>
    refine ⟨?_, ?_⟩
    · show p.index ≤ _
      omega
    · rintro _ ⟨⟩
      rw [List.length_cons]
      omega
  | case3 p b bs hdue low high hb ih | case4 p b bs hdue due low high hne hb ih
  | case5 p b bs hdue hb hone ih | case6 p b bs hdue hb hmore ih =>
    rw [List.length_cons]
    exact ih.mono (by simp only; omega) (by simp only; omega)
  | case7 p b bs =>
    refine ⟨?_, ?_⟩
    · show p.index ≤ _
      omega
    · rintro _ ⟨⟩
      omega

theorem within_fault (bs : List UInt8) : (fault bs).Within bs.length bs.length :=
  (within_search ⟨0, 0, 0, 0, 0⟩ bs).mono (by simp only; omega) (by simp only; omega)

end Text.Utf8

namespace Wire

/-! ## Short messages -/

/-- The message has at most 400 bytes. -/
def BinaryFault.Short (fault : BinaryFault) : Prop :=
  fault.message.utf8ByteSize ≤ 400

instance (fault : BinaryFault) : Decidable fault.Short :=
  inferInstanceAs (Decidable (_ ≤ _))

theorem BinaryFault.short_notUtf8 {fault : Text.Utf8.Fault}
    (h : fault.Within (256 ^ 8) (256 ^ 8)) : (notUtf8 fault).Short := by
  obtain ⟨hindex, hlength⟩ := h
  have hindex := utf8ByteSize_toString_le hindex
  have hmessage : fault.message.utf8ByteSize ≤ 60 + 80 + 60 + 80 := by
    rw [Text.Utf8.Fault.message]
    cases hfault : fault.length with
    | none =>
      exact Nat.le_trans (utf8ByteSize_append_le (by decide) hindex) (by decide : 60 + 80 ≤ _)
    | some length =>
      have hlength := utf8ByteSize_toString_le (hlength length hfault)
      exact utf8ByteSize_append_le (utf8ByteSize_append_le
        (utf8ByteSize_append_le (by decide) hlength) (by decide)) hindex
  exact Nat.le_trans (utf8ByteSize_append_le (by decide : _ ≤ 60) hmessage) (by decide)

theorem BinaryFault.short_badVariant {found count : Nat} (hfound : found < 256 ^ 4)
    (hcount : count ≤ 256 ^ 4) : (badVariant found count).Short := by
  have hbound : 256 ^ 4 ≤ 256 ^ 8 := by decide
  have hfound := utf8ByteSize_toString_le (Nat.le_trans (Nat.le_of_lt hfound) hbound)
  have hcount := utf8ByteSize_toString_le (Nat.le_trans hcount hbound)
  exact Nat.le_trans (utf8ByteSize_append_le (utf8ByteSize_append_le
    (utf8ByteSize_append_le (by decide : _ ≤ 60) hfound) (by decide : _ ≤ 60)) hcount) (by decide)

/-! ## Readers -/

/-- Whatever goes wrong, its message is short. -/
def Terse {α : Type} (x : Except BinaryFault α) : Prop :=
  ∀ fault, x = .error fault → fault.Short

namespace Terse

variable {α β : Type}

theorem ok (a : α) : Terse (.ok a) :=
  fun _ h => nomatch h

theorem error {fault : BinaryFault} (h : fault.Short) :
    Terse (.error fault : Except BinaryFault α) := by
  rintro _ ⟨⟩
  exact h

theorem bind {x : Except BinaryFault α} {f : α → Except BinaryFault β} (hx : Terse x)
    (hf : ∀ a, x = .ok a → Terse (f a)) : Terse (x >>= f) := by
  cases x with
  | error fault => exact error (hx fault rfl)
  | ok a => exact hf a rfl

theorem map {x : Except BinaryFault α} (hx : Terse x) (f : α → β) : Terse (x.map f) := by
  cases x with
  | error fault => exact error (hx fault rfl)
  | ok a => exact ok (f a)

end Terse

namespace Binary

theorem terse_readNat (width : Nat) (bs : List UInt8) : Terse (readNat width bs) := by
  rw [readNat]
  split
  · exact .ok _
  · exact .error (by decide)

theorem terse_readText (bs : List UInt8) : Terse (readText bs) := by
  cases hlength : readNat 8 bs with
  | error fault =>
    refine .bind (terse_readNat 8 bs) fun _ h => ?_
    rw [hlength] at h
    cases h
  | ok found =>
    obtain ⟨length, bs'⟩ := found
    rw [readText_of_readNat hlength]
    split
    · exact .error (by decide)
    · split
      · exact .ok _
      · -- the place of the fault is within the length that was read
        have hle : (bs'.take length).length ≤ 256 ^ 8 := by
          have hlt := (readNat_eq_ok hlength).1
          rw [List.length_take]
          omega
        exact .error (BinaryFault.short_notUtf8 ((Text.Utf8.within_fault _).mono hle hle))

theorem terse_readMany {α : Type} {read : List UInt8 → Except BinaryFault (α × List UInt8)}
    (h : ∀ bs, Terse (read bs)) (count : Nat) (reversed : List α) (bs : List UInt8) :
    Terse (readMany read count reversed bs) := by
  induction count generalizing reversed bs with
  | zero => exact .ok _
  | succ count ih =>
    rw [readMany]
    split
    case h_1 fault heq => exact .error (h bs fault heq)
    case h_2 a bs' heq => exact ih (a :: reversed) bs'

end Binary

/-! ## Forms -/

/-- Whatever bytes are read in this form, the message of a fault is short. -/
def Form.Terse {α : Type} (form : Form α) : Prop :=
  ∀ bs, Wire.Terse (form.ofBinary bs)

/-- The same for the fields of a record. -/
def Fields.Terse {α : Type} (fields : Fields α) : Prop :=
  ∀ bs, Wire.Terse (fields.ofBinary bs)

/-- The same for the variants of a choice. -/
def Variants.Terse {α : Type} (variants : Variants α) : Prop :=
  ∀ tag bs, ∀ read ∈ variants.ofBinary tag bs, Wire.Terse read

namespace Form

theorem terse_natural (name : String) : (natural name).Terse :=
  fun bs => (Binary.terse_readNat 8 bs).bind fun _ _ => .ok _

theorem terse_time : time.Terse :=
  fun bs => (Binary.terse_readNat 8 bs).bind fun _ _ => .ok _

theorem terse_text : text.Terse :=
  Binary.terse_readText

namespace Terse

variable {α β : Type}

theorem list {form : Form α} (h : form.Terse) : (list form).Terse :=
  fun bs => (Binary.terse_readNat 8 bs).bind fun _ _ => Binary.terse_readMany h _ _ _

theorem via {form : Form β} (h : form.Terse) (unwrap : α → β) (wrap : β → α) :
    (form.via unwrap wrap).Terse :=
  fun bs => (h bs).map _

theorem record {name : String} {fields : Fields α} (h : fields.Terse) :
    (record name fields).Terse :=
  h

theorem choice {variants : Variants α} (h : variants.Terse)
    (hnames : variants.names.length ≤ 256 ^ 4) : (choice variants).Terse := by
  intro bs
  refine (Binary.terse_readNat 4 bs).bind fun found hread => ?_
  obtain ⟨tag, bs'⟩ := found
  have htag := (Binary.readNat_eq_ok hread).1
  cases hvariant : variants.ofBinary tag bs' with
  | some read =>
    simp only [hvariant]
    exact h tag bs' read hvariant
  | none =>
    simp only [hvariant]
    exact .error (BinaryFault.short_badVariant htag hnames)

end Terse

end Form

namespace Fields.Terse

variable {α β : Type} {name : String} {form : Form α} {rest : Fields β}

theorem nil : Fields.nil.Terse :=
  fun _ => .ok _

theorem field (h : form.Terse) (hrest : rest.Terse) : (Fields.field name form rest).Terse :=
  fun bs => (h bs).bind fun found _ => (hrest found.2).bind fun _ _ => .ok _

end Fields.Terse

namespace Variants.Terse

variable {α β : Type} {name : String} {form : Form α} {rest : Variants β}

theorem nil : Variants.nil.Terse :=
  fun _ _ _ h => nomatch h

theorem data (h : form.Terse) (hrest : rest.Terse) : (Variants.data name form rest).Terse := by
  intro tag bs read hread
  cases tag with
  | zero =>
    cases hread
    exact (h bs).map _
  | succ tag =>
    obtain ⟨read', hread', rfl⟩ := Option.map_eq_some_iff.mp hread
    exact (hrest tag bs read' hread').map _

end Variants.Terse

/-! ## Requests -/

namespace Form

theorem terse_channelKey : channelKey.Terse :=
  .via (.record <| .field terse_text <| .field terse_text <| .field terse_text <|
    .field terse_text .nil) _ _

theorem terse_sensorRequest : sensorRequest.Terse :=
  .via (.record <| .field (terse_natural _) <| .field terse_channelKey <| .field terse_time <|
    .field terse_time .nil) _ _

theorem terse_dataRequest : dataRequest.Terse :=
  .via (.record <| .field (terse_natural _) <| .field terse_text <| .field terse_time <|
    .field terse_time .nil) _ _

theorem terse_bulkRequest : bulkRequest.Terse :=
  .via (.record <| .field (terse_natural _) <| .field terse_sensorRequest.list .nil) _ _

theorem terse_listRequest : listRequest.Terse :=
  .via (.record <| .field (terse_natural _) .nil) _ _

theorem terse_request : request.Terse :=
  .via (.choice (.data terse_sensorRequest <| .data terse_dataRequest <| .data terse_bulkRequest <|
    .data terse_listRequest .nil) (by decide)) _ _

/-- An error in the bytes of a message has a short message of its own. -/
theorem Terse.message_decodeBinary {α : Type} {form : Form α} (h : form.Terse) {bs : List UInt8}
    {error : CodecError} (hdecode : form.decodeBinary bs = .error error) :
    error.message.utf8ByteSize ≤ 500 := by
  have hbinary {fault : BinaryFault} (hshort : fault.Short) :
      (CodecError.binary fault).message.utf8ByteSize ≤ 500 :=
    Nat.le_trans (utf8ByteSize_append_le (by decide : _ ≤ 60) hshort) (by decide)
  rcases bs with _ | ⟨low, _ | ⟨high, body⟩⟩
  · cases hdecode
    decide
  · cases hdecode
    decide
  · rw [decodeBinary] at hdecode
    split at hdecode
    · cases hdecode
      have hle : Binary.natOfBytes [low, high] ≤ 256 ^ 8 :=
        Nat.le_trans (Nat.le_of_lt (Binary.natOfBytes_lt [low, high]))
          (by decide : 256 ^ 2 ≤ 256 ^ 8)
      have hversion := utf8ByteSize_toString_le hle
      exact Nat.le_trans (utf8ByteSize_append_le (utf8ByteSize_append_le (utf8ByteSize_append_le
        (utf8ByteSize_append_le (by decide : _ ≤ 60) hversion) (by decide : _ ≤ 60))
        (by decide : _ ≤ 60)) (by decide : _ ≤ 60)) (by decide)
    · split at hdecode
      case h_1 fault heq =>
        cases hdecode
        exact hbinary (h body fault heq)
      case h_2 => cases hdecode
      case h_3 =>
        cases hdecode
        exact hbinary (by decide)

end Form

end Wire

end WaveCache
