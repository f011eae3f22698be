import WaveCache.Proofs.Wire.Faithful

/-!
# Forms that read nothing but what they write

A form is `Exact` if it is faithful and if its reader accepts no other bytes than those of its
writer: whatever is read from the front of some bytes, they begin with the bytes of what was read.
So each value has one way of being written, and no part of what is read is ignored.

As with faithful forms, there is one lemma for each way of making a form from others.  The form of a
type with the same values needs both ways back and forth here, and the form of packets needs that a
packet has the parts of which it was made.
-/

namespace WaveCache.Wire

/-- A faithful form that reads nothing but what it writes. -/
structure Form.Exact {α : Type} (form : Form α) : Prop extends form.Faithful where
  ofBinary_eq_ok : ∀ {bs a rest}, form.ofBinary bs = .ok (a, rest) → bs = form.toBinary a ++ rest

/-- The same for the fields of a record. -/
structure Fields.Exact {α : Type} (fields : Fields α) : Prop extends fields.Faithful where
  ofBinary_eq_ok : ∀ {bs a rest},
    fields.ofBinary bs = .ok (a, rest) → bs = fields.toBinary a ++ rest

/-- The same for the variants of a choice.  The number that is read has to be the right one too. -/
structure Variants.Exact {α : Type} (variants : Variants α) : Prop extends variants.Faithful where
  ofBinary_eq_ok : ∀ {tag bs a rest}, variants.ofBinary tag bs = some (.ok (a, rest)) →
    tag = variants.tag a ∧ bs = variants.toBinary a ++ rest

/-! ## Numbers and texts -/

namespace Form

theorem exact_natural (name : String) : (natural name).Exact where
  toFaithful := faithful_natural name
  ofBinary_eq_ok {bs n' rest} h := by
    obtain ⟨⟨n, bs'⟩, hread, heq⟩ := exists_ok_of_bind_eq_ok h
    obtain ⟨hn, rfl⟩ := Binary.readNat_eq_ok hread
    cases heq
    show _ = Binary.bytesOfNat 8 (UInt64.ofNat n).toNat ++ rest
    rw [UInt64.toNat_ofNat_of_lt' hn]

theorem exact_time : time.Exact where
  toFaithful := faithful_time
  ofBinary_eq_ok {bs n' rest} h := by
    obtain ⟨⟨n, bs'⟩, hread, heq⟩ := exists_ok_of_bind_eq_ok h
    obtain ⟨hn, rfl⟩ := Binary.readNat_eq_ok hread
    cases heq
    show _ = Binary.bytesOfNat 8 (UInt64.ofNat n).toInt64.toUInt64.toNat ++ rest
    rw [UInt64.toUInt64_toInt64, UInt64.toNat_ofNat_of_lt' hn]

/-- Every pattern of 64 bits is a double, and no two are the same. -/
theorem exact_double : double.Exact where
  toFaithful := faithful_double
  ofBinary_eq_ok {bs n' rest} h := by
    obtain ⟨⟨n, bs'⟩, hread, heq⟩ := exists_ok_of_bind_eq_ok h
    obtain ⟨hn, rfl⟩ := Binary.readNat_eq_ok hread
    cases heq
    show _ = Binary.bytesOfNat 8 (UInt64.ofNat n).toNat ++ rest
    rw [UInt64.toNat_ofNat_of_lt' hn]

theorem exact_text : text.Exact where
  toFaithful := faithful_text
  ofBinary_eq_ok h := Binary.readText_eq_ok h

namespace Exact

variable {α β : Type}

/-! ## Lists -/

theorem list {form : Form α} (h : form.Exact) : (list form).Exact where
  toFaithful := h.toFaithful.list
  ofBinary_eq_ok {bs as rest} hread := by
    obtain ⟨⟨count, bs'⟩, hcount, hmany⟩ := exists_ok_of_bind_eq_ok hread
    obtain ⟨_, rfl⟩ := Binary.readNat_eq_ok hcount
    obtain ⟨more, heq, rfl, rfl⟩ := Binary.readMany_eq_ok h.ofBinary_eq_ok hmany
    rw [List.reverse_nil, List.nil_append] at heq
    subst heq
    show _ = (Binary.bytesOfNat 8 as.length ++ as.flatMap form.toBinary) ++ rest
    rw [List.append_assoc]

/-! ## Other types -/

theorem via {form : Form β} (h : form.Exact) {unwrap : α → β} {wrap : β → α}
    (hwrap : ∀ a, wrap (unwrap a) = a) (hunwrap : ∀ b, unwrap (wrap b) = b) :
    (form.via unwrap wrap).Exact where
  toFaithful := h.toFaithful.via hwrap
  ofBinary_eq_ok {bs a rest} hread := by
    obtain ⟨⟨b, bs'⟩, hform, heq⟩ := exists_ok_of_map_eq_ok hread
    cases heq
    show _ = form.toBinary (unwrap (wrap b)) ++ rest
    rw [hunwrap]
    exact h.ofBinary_eq_ok hform

theorem checked {written form : Form β} (h : form.Exact) (hwritten : written.WriteAlike form)
    {unwrap : α → β} {wrap : β → Except PacketError α} (hwrap : ∀ a, wrap (unwrap a) = .ok a)
    (hunwrap : ∀ {b a}, wrap b = .ok a → unwrap a = b) :
    (written.checked form unwrap wrap).Exact where
  toFaithful := h.toFaithful.checked hwritten hwrap
  ofBinary_eq_ok {bs a rest} hread := by
    obtain ⟨b, hform, hmake⟩ := ofBinary_checked_eq_ok_iff.mp hread
    show _ = written.toBinary (unwrap a) ++ rest
    rw [hunwrap hmake, hwritten.toBinary_eq]
    exact h.ofBinary_eq_ok hform

end Exact

end Form

/-! ## Records -/

namespace Fields.Exact

variable {α β : Type} {name : String} {form : Form α} {rest : Fields β}

theorem nil : Fields.nil.Exact where
  toFaithful := .nil
  ofBinary_eq_ok h := by
    cases h
    rfl

theorem field (h : form.Exact) (hrest : rest.Exact) : (Fields.field name form rest).Exact where
  toFaithful := .field h.toFaithful hrest.toFaithful
  ofBinary_eq_ok {bs ab bs'} hread := by
    obtain ⟨⟨a, bs₁⟩, hfirst, hread'⟩ := exists_ok_of_bind_eq_ok hread
    obtain ⟨⟨b, bs₂⟩, hothers, heq⟩ := exists_ok_of_bind_eq_ok hread'
    cases heq
    show _ = (form.toBinary a ++ rest.toBinary b) ++ bs'
    rw [h.ofBinary_eq_ok hfirst, hrest.ofBinary_eq_ok hothers, List.append_assoc]

end Fields.Exact

theorem Form.Exact.record {α β : Type} {name field : String} {form : Form α} {rest : Fields β}
    (h : form.Exact) (hrest : rest.Exact) :
    (Form.record name (.field field form rest)).Exact where
  toFaithful := .record h.toFaithful hrest.toFaithful
  ofBinary_eq_ok := (Fields.Exact.field h hrest).ofBinary_eq_ok

/-! ## Choices -/

namespace Variants.Exact

variable {α β : Type} {name : String} {form : Form α} {rest : Variants β}

theorem nil : Variants.nil.Exact where
  toFaithful := .nil
  ofBinary_eq_ok h := nomatch h

/-- What is found behind the first variant has a number one greater. -/
theorem ofBinary_inr {tag : Nat} {bs bs' : List UInt8} {a : α ⊕ β} (h : rest.Exact)
    (hread : (rest.ofBinary tag bs).map (fun r => r.map fun (b, bs) => (Sum.inr b, bs)) =
      some (.ok (a, bs'))) :
    ∃ b, a = .inr b ∧ tag = rest.tag b ∧ bs = rest.toBinary b ++ bs' := by
  obtain ⟨r, hr, hmap⟩ := Option.map_eq_some_iff.mp hread
  obtain ⟨⟨b, bs''⟩, rfl, heq⟩ := exists_ok_of_map_eq_ok hmap
  cases heq
  exact ⟨b, rfl, h.ofBinary_eq_ok hr⟩

theorem bare (hrest : rest.Exact) : (Variants.bare name rest).Exact where
  toFaithful := .bare hrest.toFaithful
  ofBinary_eq_ok {tag bs a bs'} hread := by
    cases tag with
    | zero =>
      cases hread
      exact ⟨rfl, rfl⟩
    | succ tag =>
      obtain ⟨b, rfl, htag, hbytes⟩ := ofBinary_inr hrest hread
      exact ⟨congrArg Nat.succ htag, hbytes⟩

theorem data (h : form.Exact) (hrest : rest.Exact) : (Variants.data name form rest).Exact where
  toFaithful := .data h.toFaithful hrest.toFaithful
  ofBinary_eq_ok {tag bs a bs'} hread := by
    cases tag with
    | zero =>
      obtain ⟨⟨a', bs''⟩, hform, heq⟩ := exists_ok_of_map_eq_ok (Option.some.inj hread)
      cases heq
      exact ⟨rfl, h.ofBinary_eq_ok hform⟩
    | succ tag =>
      obtain ⟨b, rfl, htag, hbytes⟩ := ofBinary_inr hrest hread
      exact ⟨congrArg Nat.succ htag, hbytes⟩

end Variants.Exact

theorem Form.Exact.choice {α : Type} {variants : Variants α} (h : variants.Exact)
    (hnames : variants.names.length ≤ 256 ^ 4) : (Form.choice variants).Exact where
  toFaithful := .choice h.toFaithful hnames
  ofBinary_eq_ok hread := by
    obtain ⟨⟨tag, bs'⟩, htag, hdata⟩ := exists_ok_of_bind_eq_ok hread
    obtain ⟨_, rfl⟩ := Binary.readNat_eq_ok htag
    cases hvariant : variants.ofBinary tag bs' with
    | none =>
      simp only [hvariant] at hdata
      cases hdata
    | some read =>
      simp only [hvariant] at hdata
      subst hdata
      obtain ⟨rfl, rfl⟩ := h.ofBinary_eq_ok hvariant
      show _ = (Binary.bytesOfNat 4 _ ++ variants.toBinary _) ++ _
      rw [List.append_assoc]

end WaveCache.Wire
