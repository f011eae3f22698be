import WaveCache.Wire.Form

/-!
# Forms with a check

The readers of a checked form succeed on what the readers of the form under it find, if that passes
the check.  What does not pass is refused with the error of the check, whatever stands behind it.

A checked form writes in one form and reads in another.  What it wrote comes back if the two
`WriteAlike`: then the bytes are such as the form that reads would have written as well.
-/

namespace WaveCache.Wire

/-! ## Readers -/

section

variable {ε ε' α β : Type} {read : Except ε (β × List UInt8)} {wrap : β → Except ε' α} {a : α}
  {b : β} {rest : List UInt8} {error : ε'}

theorem bind_mapError_eq_ok_iff (f : ε' → ε) :
    (do let (b, bs) ← read
        return (← (wrap b).mapError f, bs)) = .ok (a, rest) ↔
      ∃ b, read = .ok (b, rest) ∧ wrap b = .ok a := by
  cases read with
  | error fault =>
    constructor
    · intro h
      cases h
    · rintro ⟨b, hread, _⟩
      cases hread
  | ok found =>
    obtain ⟨b, bs⟩ := found
    show (do return (← (wrap b).mapError f, bs) : Except ε _) = _ ↔ _
    constructor
    · intro h
      cases hwrap : wrap b with
      | error error =>
        rw [hwrap] at h
        cases h
      | ok a' =>
        rw [hwrap] at h
        cases h
        exact ⟨b, rfl, hwrap⟩
    · rintro ⟨_, ⟨⟩, hwrap⟩
      rw [hwrap]
      rfl

theorem bind_mapError_eq_error (f : ε' → ε) (hread : read = .ok (b, rest))
    (hwrap : wrap b = .error error) :
    (do let (b, bs) ← read
        return (← (wrap b).mapError f, bs)) = .error (f error) := by
  rw [hread]
  show (do return (← (wrap b).mapError f, rest) : Except ε _) = _
  rw [hwrap]
  rfl

end

/-! ## Forms -/

namespace Form

/-- Two forms that write every value in the same way. -/
structure WriteAlike {β : Type} (written form : Form β) : Prop where
  size_eq : ∀ b, written.size b = form.size b
  toBinary_eq : ∀ b, written.toBinary b = form.toBinary b
  toJson_eq : ∀ b, written.toJson b = form.toJson b

variable {α β γ : Type} {written : Form γ} {form : Form β} {unwrap : α → γ}
  {wrap : β → Except PacketError α} {bs rest : List UInt8} {a : α} {b : β} {error : PacketError}

theorem ofBinary_checked_eq_ok_iff :
    (written.checked form unwrap wrap).ofBinary bs = .ok (a, rest) ↔
    ∃ b, form.ofBinary bs = .ok (b, rest) ∧ wrap b = .ok a :=
  bind_mapError_eq_ok_iff BinaryFault.badPacket

theorem ofJson_checked_eq_ok_iff :
    (written.checked form unwrap wrap).ofJson bs = .ok (a, rest) ↔
    ∃ b, form.ofJson bs = .ok (b, rest) ∧ wrap b = .ok a :=
  bind_mapError_eq_ok_iff Json.Fault.badPacket

theorem ofBinary_checked_eq_error (hread : form.ofBinary bs = .ok (b, rest))
    (hwrap : wrap b = .error error) :
    (written.checked form unwrap wrap).ofBinary bs = .error (.badPacket error) :=
  bind_mapError_eq_error BinaryFault.badPacket hread hwrap

theorem ofJson_checked_eq_error (hread : form.ofJson bs = .ok (b, rest))
    (hwrap : wrap b = .error error) :
    (written.checked form unwrap wrap).ofJson bs = .error (.badPacket error) :=
  bind_mapError_eq_error Json.Fault.badPacket hread hwrap

end Form

end WaveCache.Wire
