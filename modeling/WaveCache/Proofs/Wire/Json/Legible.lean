import WaveCache.Proofs.Wire.Checked
import WaveCache.Proofs.Wire.Json.Number
import WaveCache.Proofs.Wire.Json.Strings
import WaveCache.Wire.Choice
import WaveCache.Wire.Record

/-!
# Values that are read back from JSON

A value is `Legible` in a form if the reader finds it again in the text that the writer made of it,
whatever `Follows` in a message.  Not every value is: a double has to be finite.  So this is said of
a value and not of a form, and each way of making a form from others has a lemma that asks it of the
parts of one value.

A record is read back entry by entry.  What has been found so far is kept by `Fields.Within`:
reading the fields that are left, and then putting the found ones before them, is the same as
reading all.
-/

namespace WaveCache.Wire

open WaveCache.Text Json

namespace Json

variable {b : UInt8} {bs rest : List UInt8}

theorem skipSpace_cons (h : isSpace b = false) : skipSpace (b :: bs) = b :: bs :=
  List.dropWhile_cons_of_neg (by rw [h]; decide)

theorem skipColon_cons (bs : List UInt8) : skipColon (colon :: bs) = .ok bs := by
  rw [skipColon, skipSpace_cons (by decide)]
  rfl

/-- The text of an element begins with a byte that is neither blank nor the end of the list. -/
def Starts (bs : List UInt8) : Prop :=
  ∃ b rest, bs = b :: rest ∧ isSpace b = false ∧ b ≠ closeList

/-! ## Values behind one another -/

/-- Values with commas between them; the first has one before it as well, if it is not the first of
all. -/
def joined : (first : Bool) → List (List UInt8) → List UInt8
  | _, [] => []
  | first, v :: vs => (if first then [] else [comma]) ++ v ++ joined false vs

theorem separated_eq_joined (vs : List (List UInt8)) : separated vs = joined true vs := by
  have hcons (v : List UInt8) (vs : List (List UInt8)) :
      separated (v :: vs) = v ++ joined false vs := by
    induction vs generalizing v with
    | nil => simp [separated, joined]
    | cons v' vs ih =>
      have htail : [comma].intercalate (v' :: vs) = v' ++ joined false vs := ih v'
      rw [separated, List.intercalate_cons_cons, htail, List.append_assoc]
      rfl
  cases vs with
  | nil => rfl
  | cons v vs => exact hcons v vs

/-- What stands behind a value among others. -/
theorem follows_joined (vs : List (List UInt8)) (hb : b = comma ∨ b = closeList ∨ b = closeObject)
    (rest : List UInt8) : Follows (joined false vs ++ b :: rest) := by
  cases vs with
  | nil => exact .cons hb rest
  | cons v vs => exact .cons (.inl rfl) _

/-- There are no more values than bytes, if none of them is empty. -/
theorem length_le_length_joined {vs : List (List UInt8)} (h : ∀ v ∈ vs, v ≠ []) (first : Bool) :
    vs.length ≤ (joined first vs).length := by
  induction vs generalizing first with
  | nil => exact Nat.le_refl _
  | cons v vs ih =>
    have hpos := List.length_pos_iff.mpr (h v List.mem_cons_self)
    have hle := ih (fun v' hv' => h v' (List.mem_cons_of_mem v hv')) false
    simp only [joined, List.length_append, List.length_cons]
    omega

end Json

/-! ## Legible values -/

/-- A value that is read back from its text. -/
structure Form.Legible {α : Type} (form : Form α) (a : α) : Prop where
  starts : Starts (form.toJson a)
  ofJson_append : ∀ rest, Follows rest → form.ofJson (form.toJson a ++ rest) = .ok (a, rest)

/-- The same for the fields of a record. -/
def Fields.Legible : {α : Type} → Fields α → α → Prop
  | _, .nil, _ => True
  | _, .field _ form rest, (a, b) => form.Legible a ∧ rest.Legible b

/-- The same for the variants of a choice. -/
def Variants.Legible : {α : Type} → Variants α → α → Prop
  | _, .nil, _ => True
  | _, .bare _ _, .inl _ => True
  | _, .bare _ rest, .inr b => rest.Legible b
  | _, .data _ form _, .inl a => form.Legible a
  | _, .data _ _ rest, .inr b => rest.Legible b

/-! ## Numbers -/

namespace Json

/-- A numeral begins with its sign or with a digit. -/
theorem Numeral.bytes_eq_cons (n : Numeral) :
    ∃ b bs, n.bytes = b :: bs ∧ (b = minus ∨ isDigit b = true) := by
  cases hnegative : n.negative with
  | false =>
    obtain ⟨b, bs, hwhole⟩ := List.exists_cons_of_ne_nil n.digits_whole.ne_nil
    refine ⟨b, bs ++ (fractionBytes n.fraction ++ powerBytes n.power), ?_, .inr ?_⟩
    · rw [bytes, hnegative, hwhole]
      rfl
    · exact n.digits_whole.isDigit_of_mem b (hwhole ▸ List.mem_cons_self)
  | true =>
    refine ⟨minus, n.whole ++ (fractionBytes n.fraction ++ powerBytes n.power), ?_, .inl rfl⟩
    rw [bytes, hnegative, show Binary64.signBytes true = [minus] by decide]
    rfl

theorem isSpace_of_number {b : UInt8} (h : b = minus ∨ isDigit b = true) :
    isSpace b = false ∧ b ≠ closeList := by
  rcases h with rfl | h
  · decide
  · have hne : ∀ c, isDigit c = false → b ≠ c := by
      rintro c hc rfl
      exact Bool.false_ne_true (hc.symm.trans h)
    refine ⟨?_, hne closeList (by decide)⟩
    simp only [isSpace, hne 0x20 (by decide), hne 0x0A (by decide), hne 0x09 (by decide),
      hne 0x0D (by decide), decide_false, Bool.or_false]

variable {α : Type} {form : Form α} {a : α} {expected : String}
  {convert : Number → Except Fault α}

/-- A value is legible if it is written as a numeral whose number is turned into the value. -/
theorem legible_of_numeral {n : Numeral} {number : Number}
    (hwrite : form.toJson a = n.bytes) (hread : form.ofJson = readNumberOf expected convert)
    (hnumber : n.number = .ok number) (hconvert : convert number = .ok a) : form.Legible a where
  starts := by
    obtain ⟨b, bs, hbytes, hb⟩ := n.bytes_eq_cons
    exact ⟨b, bs, hwrite.trans hbytes, isSpace_of_number hb⟩
  ofJson_append rest hrest := by
    have happend := readNumber_append n hrest
    obtain ⟨b, bs, hbytes, hb⟩ := n.bytes_eq_cons
    rw [hnumber, hbytes, List.cons_append] at happend
    have hb' : (b = minus || isDigit b) = true := by simpa using hb
    rw [hwrite, hread, hbytes, List.cons_append, readNumberOf,
      skipSpace_cons (isSpace_of_number hb).1]
    simp only [hb', if_true, happend, Except.map, bind, Except.bind, hconvert]
    rfl

end Json

namespace Form

theorem legible_natural (name : String) (n : UInt64) : (natural name).Legible n := by
  have hlt : n.toNat < UInt64.size := n.toNat_lt
  have hnumber : (Numeral.ofDigits false n.toNat).number = .ok (.natural n.toNat) := by
    rw [Numeral.number_ofDigits, integer]
    simp only [Bool.false_eq_true, if_false, if_pos hlt]
  refine legible_of_numeral (Numeral.bytes_ofDigits false n.toNat).symm rfl hnumber ?_
  rw [asUInt64, UInt64.ofNat_toNat]

theorem legible_time (t : Micros) : time.Legible t := by
  have hlow := Int64.le_toInt t
  have hhigh := Int64.toInt_lt t
  have hwrite : time.toJson t = (Numeral.ofDigits (t.toInt < 0) t.toInt.natAbs).bytes :=
    (Numeral.bytes_ofDigits _ _).symm
  by_cases hnegative : t.toInt < 0
  · have hnumber : (Numeral.ofDigits (t.toInt < 0) t.toInt.natAbs).number =
        .ok (.negative t.toInt.natAbs) := by
      rw [Numeral.number_ofDigits, decide_eq_true hnegative, integer]
      simp only [if_true]
      rw [if_pos (by omega)]
    refine legible_of_numeral hwrite rfl hnumber ?_
    have hvalue : -(t.toInt.natAbs : Int) = t.toInt := by omega
    rw [asInt64, hvalue, Int64.ofInt_toInt]
  · have hnumber : (Numeral.ofDigits (t.toInt < 0) t.toInt.natAbs).number =
        .ok (.natural t.toInt.natAbs) := by
      have hsize : t.toInt.natAbs < UInt64.size := by
        simp only [UInt64.size]
        omega
      rw [Numeral.number_ofDigits, decide_eq_false hnegative, integer]
      simp only [Bool.false_eq_true, if_false, if_pos hsize]
    refine legible_of_numeral hwrite rfl hnumber ?_
    have hvalue : (t.toInt.natAbs : Int) = t.toInt := by omega
    rw [asInt64, if_pos (by omega), hvalue, Int64.ofInt_toInt]

/-- A double with a number in it is legible; an infinity or a NaN is not. -/
theorem legible_double {x : Binary64} (hx : x.isFinite = true) : double.Legible x := by
  obtain ⟨n, hwrite, hnumber⟩ := exists_numeral hx
  have hread : double.ofJson = readNumberOf "f64" fun number => .ok number.toBinary64 := rfl
  exact legible_of_numeral hwrite hread hnumber rfl

/-! ## Texts -/

theorem legible_text (s : String) : text.Legible s where
  starts := ⟨quote, _, rfl, by decide, by decide⟩
  ofJson_append rest _ := by
    show readText (writeString s ++ rest) = _
    rw [writeString_append, readText, skipSpace_cons (by decide)]
    exact readString_append s rest

end Form

/-! ## Lists -/

namespace Json

/-- An element is found behind the bracket or the comma before it. -/
theorem nextElement_joined {v : List UInt8} (hv : Starts v) (first : Bool) (more : List UInt8) :
    nextElement first ((if first then [] else [comma]) ++ v ++ more) = .ok (some (v ++ more)) := by
  obtain ⟨b, bs, rfl, hspace, hclose⟩ := hv
  cases first with
  | true =>
    show nextElement true (b :: (bs ++ more)) = _
    rw [nextElement, skipSpace_cons hspace]
    simp only [if_neg hclose, if_true]
    rfl
  | false =>
    show nextElement false (comma :: b :: (bs ++ more)) = _
    have hcomma : comma ≠ closeList := by decide
    rw [nextElement, skipSpace_cons (by decide)]
    simp only [if_neg hcomma, Bool.false_eq_true, if_false, if_true, skipSpace_cons hspace,
      if_neg hclose]
    rfl

theorem nextElement_closeList (first : Bool) (rest : List UInt8) :
    nextElement first (closeList :: rest) = .ok none := by
  rw [nextElement, skipSpace_cons (by decide)]
  rfl

theorem endList_closeList (rest : List UInt8) : endList (closeList :: rest) = .ok rest := by
  rw [endList, skipSpace_cons (by decide)]
  rfl

/-- Elements that are each read back are read back one after another, up to the end of the list. -/
theorem readElements_append {α : Type} {form : Form α} {as : List α}
    (h : ∀ a ∈ as, form.Legible a) {steps : Nat} (hsteps : as.length < steps)
    (reversed : List α) (first : Bool) (rest : List UInt8) :
    readElements form.ofJson steps reversed first
      (joined first (as.map form.toJson) ++ closeList :: rest) =
        .ok (reversed.reverse ++ as, rest) := by
  induction as generalizing steps reversed first with
  | nil =>
    obtain ⟨steps, rfl⟩ := Nat.exists_eq_succ_of_ne_zero (Nat.ne_of_gt hsteps)
    show readElements form.ofJson (steps + 1) reversed first (closeList :: rest) = _
    rw [readElements, nextElement_closeList, List.append_nil]
    simp only [endList_closeList]
    rfl
  | cons a as ih =>
    rw [List.length_cons] at hsteps
    obtain ⟨steps, rfl⟩ := Nat.exists_eq_succ_of_ne_zero (show steps ≠ 0 by omega)
    have ha := h a List.mem_cons_self
    have hread := ha.ofJson_append _ (follows_joined (as.map form.toJson) (.inr (.inl rfl)) rest)
    have has := ih (fun a' ha' => h a' (List.mem_cons_of_mem a ha'))
      (show as.length < steps by omega) (a :: reversed) false
    rw [List.map_cons, joined, List.append_assoc, readElements, nextElement_joined ha.starts]
    simp only [hread, has, List.reverse_cons, List.append_assoc, List.singleton_append]

end Json

namespace Form.Legible

variable {α β : Type}

theorem list {form : Form α} {as : List α} (h : ∀ a ∈ as, form.Legible a) :
    (list form).Legible as where
  starts := ⟨openList, _, rfl, by decide, by decide⟩
  ofJson_append rest _ := by
    have hne : ∀ v ∈ as.map form.toJson, v ≠ [] := by
      intro v hv
      obtain ⟨a, ha, rfl⟩ := List.mem_map.mp hv
      obtain ⟨b, bs, hbytes, _⟩ := (h a ha).starts
      rw [hbytes]
      exact List.cons_ne_nil b bs
    have hle := length_le_length_joined hne true
    rw [List.length_map] at hle
    show readList form.ofJson
      (openList :: separated (as.map form.toJson) ++ [closeList] ++ rest) = _
    rw [List.cons_append, List.cons_append, List.append_assoc, List.singleton_append,
      separated_eq_joined, readList, skipSpace_cons (by decide)]
    simp only [if_true]
    exact readElements_append h (by rw [List.length_append]; omega) [] true rest

/-! ## Other types -/

theorem via {form : Form β} {unwrap : α → β} {wrap : β → α} {a : α}
    (h : form.Legible (unwrap a)) (hwrap : wrap (unwrap a) = a) :
    (form.via unwrap wrap).Legible a where
  starts := h.starts
  ofJson_append rest hrest := by
    simp only [Form.via, h.ofJson_append rest hrest]
    show Except.ok (wrap (unwrap a), rest) = .ok (a, rest)
    rw [hwrap]

theorem checked {written form : Form β} {unwrap : α → β} {wrap : β → Except PacketError α} {a : α}
    (h : form.Legible (unwrap a)) (hwritten : written.WriteAlike form)
    (hwrap : wrap (unwrap a) = .ok a) : (written.checked form unwrap wrap).Legible a where
  starts := by
    show Starts (written.toJson (unwrap a))
    rw [hwritten.toJson_eq]
    exact h.starts
  ofJson_append rest hrest := by
    show (written.checked form unwrap wrap).ofJson (written.toJson (unwrap a) ++ rest) = _
    rw [hwritten.toJson_eq]
    exact Form.ofJson_checked_eq_ok_iff.mpr ⟨unwrap a, h.ofJson_append rest hrest, hwrap⟩

end Form.Legible

/-! ## Records -/

namespace Fields

variable {α β γ : Type}

/-- The names of the fields in order. -/
def names : {α : Type} → Fields α → List String
  | _, .nil => []
  | _, .field name _ rest => name :: rest.names

/-- The first field has been found, and the others as given. -/
def withFirst {name : String} {form : Form α} {others : Fields β} (a : α) (slots : others.Slots) :
    (Fields.field name form others).Slots :=
  (some a, slots)

/-- The fields `others` are what is left of `fields`.  `embed` puts the fields that have been found
before those that are still to be found, and `combine` does so for their values. -/
structure Within (fields : Fields α) (others : Fields β) (embed : others.Slots → fields.Slots)
    (combine : β → α) : Prop where
  fill_embed : ∀ key ∈ others.names, ∀ slots bs, fields.fill key (embed slots) bs =
    (others.fill key slots bs).map fun found => found.map fun (slots, bs) => (embed slots, bs)
  ofSlots_embed : ∀ slots, fields.ofSlots (embed slots) = (others.ofSlots slots).map combine

theorem Within.refl (fields : Fields α) : Within fields fields id id where
  fill_embed key _ slots bs := by
    show fields.fill key slots bs = _
    cases fields.fill key slots bs with
    | error fault => rfl
    | ok found => cases found <;> rfl
  ofSlots_embed slots := by
    show fields.ofSlots slots = _
    cases fields.ofSlots slots <;> rfl

/-- One more field has been found. -/
theorem Within.next {fields : Fields α} {name : String} {form : Form β} {others : Fields γ}
    {embed : (Fields.field name form others).Slots → fields.Slots} {combine : β × γ → α}
    (h : Within fields (.field name form others) embed combine) (hname : name ∉ others.names)
    (b : β) : Within fields others (fun slots => embed (withFirst b slots))
      (fun c => combine (b, c)) where
  fill_embed key hkey slots bs := by
    have hne : key ≠ name := by
      rintro rfl
      exact hname hkey
    rw [h.fill_embed key (List.mem_cons_of_mem name hkey), fill, if_neg hne]
    show Except.map _ (Except.map _ (others.fill key slots bs)) = _
    cases others.fill key slots bs with
    | error fault => rfl
    | ok found => cases found <;> rfl
  ofSlots_embed slots := by
    rw [h.ofSlots_embed]
    show Except.map _ (Except.map _ (others.ofSlots slots)) = _
    cases others.ofSlots slots <;> rfl

theorem nextKey_joined (name : String) (first : Bool) (bs : List UInt8) :
    nextKey first ((if first then [] else [comma]) ++ writeString name ++ bs) =
      .ok (some ((bytesOf name).flatMap escapeByte ++ quote :: bs)) := by
  have hclose : quote ≠ closeObject := by decide
  have hcomma : comma ≠ closeObject := by decide
  rw [List.append_assoc, writeString_append]
  cases first with
  | true =>
    rw [if_pos rfl, List.nil_append, nextKey, skipSpace_cons (by decide)]
    simp only [if_neg hclose, if_true]
  | false =>
    rw [if_neg Bool.false_ne_true, List.singleton_append, nextKey, skipSpace_cons (by decide)]
    simp only [if_neg hcomma, Bool.false_eq_true, if_false, if_true]
    rw [skipSpace_cons (by decide)]
    simp only [if_true]

theorem nextKey_closeObject (first : Bool) (rest : List UInt8) :
    nextKey first (closeObject :: rest) = .ok none := by
  rw [nextKey, skipSpace_cons (by decide)]
  rfl

/-- The first field that is left is filled. -/
theorem fill_cons (name : String) {form : Form α} (others : Fields β) {a : α}
    (h : form.Legible a) {rest : List UInt8} (hrest : Follows rest) :
    (Fields.field name form others).fill name (Fields.field name form others).noSlots
      (colon :: form.toJson a ++ rest) = .ok (some (withFirst a others.noSlots, rest)) := by
  rw [fill, if_pos rfl, noSlots]
  simp only [Option.isSome_none, Bool.false_eq_true, if_false, List.cons_append, skipColon_cons,
    bind, Except.bind, h.ofJson_append rest hrest]
  rfl

/-- The entries that are left are read, up to the end of the object. -/
theorem ofEntries_append {fields : Fields α} {others : Fields β}
    {embed : others.Slots → fields.Slots} {combine : β → α}
    (h : Within fields others embed combine) (hnames : others.names.Nodup) {b : β}
    (hb : others.Legible b) {steps : Nat} (hsteps : (others.entries b).length < steps)
    (first : Bool) (rest : List UInt8) :
    fields.ofEntries steps first (embed others.noSlots)
      (joined first (others.entries b) ++ closeObject :: rest) = .ok (combine b, rest) := by
  induction others generalizing steps first with
  | nil =>
    obtain ⟨steps, rfl⟩ := Nat.exists_eq_succ_of_ne_zero (Nat.ne_of_gt hsteps)
    show fields.ofEntries (steps + 1) first (embed ()) (closeObject :: rest) = _
    rw [ofEntries, nextKey_closeObject]
    have hslots : fields.ofSlots (embed ()) = .ok (combine b) := h.ofSlots_embed ()
    simp only [bind, Except.bind, hslots,
      skipSpace_cons (show isSpace closeObject = false by decide)]
    rfl
  | field name form others ih =>
    obtain ⟨a, b⟩ := b
    obtain ⟨ha, hothers⟩ := hb
    obtain ⟨hname, hnames⟩ := List.nodup_cons.mp hnames
    have hlength : (others.entries b).length + 1 < steps := hsteps
    obtain ⟨steps, rfl⟩ := Nat.exists_eq_succ_of_ne_zero (show steps ≠ 0 by omega)
    have hfollows := follows_joined (others.entries b) (.inr (.inr rfl)) rest
    have hfill := fill_cons name others ha hfollows
    have hrest := ih (h.next hname a) hnames hothers
      (show (others.entries b).length < steps by omega) false
    have hembed := h.fill_embed name List.mem_cons_self
      (Fields.field name form others).noSlots
      (colon :: form.toJson a ++ (joined false (others.entries b) ++ closeObject :: rest))
    rw [hfill] at hembed
    have htext : joined first ((Fields.field name form others).entries (a, b)) ++
        closeObject :: rest = (if first then [] else [comma]) ++ writeString name ++
          (colon :: form.toJson a ++ (joined false (others.entries b) ++ closeObject :: rest)) := by
      rw [entries, joined]
      simp only [List.append_assoc]
    rw [htext, ofEntries, nextKey_joined]
    simp only [bind, Except.bind, readString_append, hembed]
    exact hrest

theorem legible_nil : Fields.nil.Legible () :=
  trivial

theorem Legible.field {name : String} {form : Form α} {others : Fields β} {a : α} {b : β}
    (ha : form.Legible a) (hb : others.Legible b) :
    (Fields.field name form others).Legible (a, b) :=
  ⟨ha, hb⟩

/-- No entry is empty, so there are no more of them than bytes. -/
theorem length_entries_le (fields : Fields α) (a : α) (first : Bool) :
    (fields.entries a).length ≤ (joined first (fields.entries a)).length := by
  apply length_le_length_joined
  induction fields with
  | nil => exact fun _ h => nomatch h
  | field name form others ih =>
    obtain ⟨a, b⟩ := a
    intro v hv
    rcases List.mem_cons.mp hv with rfl | hv
    · exact List.cons_ne_nil _ _
    · exact ih b v hv

end Fields

theorem Form.Legible.record {α : Type} {name : String} {fields : Fields α} {a : α}
    (hnames : fields.names.Nodup) (h : fields.Legible a) : (Form.record name fields).Legible a where
  starts := ⟨openObject, _, rfl, by decide, by decide⟩
  ofJson_append rest _ := by
    show fields.ofJson ("struct " ++ name)
      (openObject :: separated (fields.entries a) ++ [closeObject] ++ rest) = _
    have hle := fields.length_entries_le a true
    rw [List.cons_append, List.cons_append, List.append_assoc, List.singleton_append,
      separated_eq_joined, Fields.ofJson, skipSpace_cons (by decide)]
    simp only [if_true]
    exact Fields.ofEntries_append (.refl fields) hnames h
      (by rw [List.length_append]; omega) true rest

/-! ## Choices -/

namespace Variants

variable {α : Type}

/-- How a variant is written, and that what is written is understood. -/
inductive Written (variants : Variants α) (a : α) : Prop where
  /-- By its name alone. -/
  | bare (name : String) (hname : name ∈ variants.names)
      (hwrite : variants.toJson a = writeString name)
      (hread : variants.ofName name = some (.ok a))
  /-- By its name and its data. -/
  | data (name : String) (hname : name ∈ variants.names) (bytes : List UInt8)
      (read : List UInt8 → Except Json.Fault (α × List UInt8))
      (hwrite : variants.toJson a =
        openObject :: writeString name ++ colon :: bytes ++ [closeObject])
      (hentry : variants.ofEntry name = some read)
      (hread : ∀ rest, Follows rest → read (bytes ++ rest) = .ok (a, rest))

/-- A variant is written as it would be without another one in front that has another name. -/
theorem Written.cons {β γ : Type} {variants : Variants (γ ⊕ β)} {others : Variants β} {b : β}
    {first : String} (h : others.Written b) (hfirst : first ∉ others.names)
    (hnames : variants.names = first :: others.names)
    (hwrite : variants.toJson (.inr b) = others.toJson b)
    (hname : ∀ key, key ≠ first → variants.ofName key = (others.ofName key).map fun r => r.map .inr)
    (hentry : ∀ key, key ≠ first → variants.ofEntry key =
      (others.ofEntry key).map fun read bs => (read bs).map fun (b, bs) => (.inr b, bs)) :
    variants.Written (.inr b) := by
  cases h with
  | bare name hmem hwrite' hread =>
    have hne : name ≠ first := by
      rintro rfl
      exact hfirst hmem
    refine .bare name (hnames ▸ List.mem_cons_of_mem first hmem) (hwrite.trans hwrite') ?_
    rw [hname name hne, hread]
    rfl
  | data name hmem bytes read hwrite' hentry' hread =>
    have hne : name ≠ first := by
      rintro rfl
      exact hfirst hmem
    refine .data name (hnames ▸ List.mem_cons_of_mem first hmem) bytes _ (hwrite.trans hwrite')
      (by rw [hentry name hne, hentry']; rfl) fun rest hrest => ?_
    simp only [hread rest hrest]
    rfl

theorem Legible.written {variants : Variants α} {a : α} (hnames : variants.names.Nodup)
    (h : variants.Legible a) : variants.Written a := by
  induction variants with
  | nil => exact nomatch a
  | bare name others ih =>
    obtain ⟨hname, hnames⟩ := List.nodup_cons.mp hnames
    rcases a with ⟨⟩ | b
    · exact .bare name List.mem_cons_self rfl (if_pos rfl)
    · exact (ih hnames h).cons hname rfl rfl (fun key hne => if_neg hne) (fun key hne => if_neg hne)
  | data name form others ih =>
    obtain ⟨hname, hnames⟩ := List.nodup_cons.mp hnames
    rcases a with a | b
    · have ha : form.Legible a := h
      refine .data name List.mem_cons_self (form.toJson a) _ rfl (if_pos rfl) fun rest hrest => ?_
      rw [ha.ofJson_append rest hrest]
      rfl
    · exact (ih hnames h).cons hname rfl rfl (fun key hne => if_neg hne) (fun key hne => if_neg hne)

theorem Written.starts {variants : Variants α} {a : α} (h : variants.Written a) :
    Starts (variants.toJson a) := by
  cases h with
  | bare name _ hwrite _ => exact ⟨quote, _, hwrite, by decide, by decide⟩
  | data name _ bytes read hwrite _ _ => exact ⟨openObject, _, hwrite, by decide, by decide⟩

theorem Written.ofJson_append {variants : Variants α} {a : α} (h : variants.Written a)
    (rest : List UInt8) : variants.ofJson (variants.toJson a ++ rest) = .ok (a, rest) := by
  cases h with
  | bare name _ hwrite hread =>
    rw [hwrite, writeString_append, ofJson, skipSpace_cons (by decide)]
    simp only [if_true, bind, Except.bind, readString_append, hread]
    rfl
  | data name _ bytes read hwrite hentry hread =>
    have hobject : openObject ≠ quote := by decide
    have hdata := hread (closeObject :: rest) (.cons (.inr (.inr rfl)) rest)
    have hkey (bs : List UInt8) : readKey (writeString name ++ bs) = .ok (name, bs) := by
      rw [writeString_append, readKey, skipSpace_cons (by decide)]
      simp only [if_true, readString_append]
    have hend : endEntry (closeObject :: rest) = .ok rest := by
      rw [endEntry, skipSpace_cons (by decide)]
      rfl
    have htext : openObject :: writeString name ++ colon :: bytes ++ [closeObject] ++ rest =
        openObject :: (writeString name ++ colon :: (bytes ++ closeObject :: rest)) := by
      simp only [List.cons_append, List.append_assoc, List.nil_append]
    rw [hwrite, htext, ofJson, skipSpace_cons (by decide)]
    simp only [if_neg hobject, if_true, bind, Except.bind, hkey, hentry, skipColon_cons, hdata,
      hend]
    rfl

end Variants

theorem Form.Legible.choice {α : Type} {variants : Variants α} {a : α}
    (hnames : variants.names.Nodup) (h : variants.Legible a) :
    (Form.choice variants).Legible a where
  starts := (h.written hnames).starts
  ofJson_append rest _ := (h.written hnames).ofJson_append rest

end WaveCache.Wire
