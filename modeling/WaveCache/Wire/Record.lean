import WaveCache.Wire.Form

/-!
# Records

A record has named fields in a fixed order.  In bytes they stand one after another.  In JSON they
are an object, whose keys may come in any order and may include others that are skipped, or a list
of exactly the fields in order.

`Fields α` describes the fields of a record whose values, taken together in nested pairs, make an
`α`.
-/

namespace WaveCache.Wire

/-- The names and forms of the fields of a record. -/
inductive Fields : Type → Type 1 where
  | nil : Fields Unit
  | field {α β : Type} (name : String) (form : Form α) (rest : Fields β) : Fields (α × β)

namespace Fields

open WaveCache.Text

/-- The number of fields. -/
def length : {α : Type} → Fields α → Nat
  | _, nil => 0
  | _, field _ _ rest => rest.length + 1

/-! ## Bytes -/

/-- The number of bytes that the fields take. -/
def size : {α : Type} → Fields α → α → Nat
  | _, nil, _ => 0
  | _, field _ form rest, (a, b) => form.size a + rest.size b

/-- The fields in bytes. -/
def toBinary : {α : Type} → Fields α → α → List UInt8
  | _, nil, _ => []
  | _, field _ form rest, (a, b) => form.toBinary a ++ rest.toBinary b

/-- Reads the fields from bytes. -/
def ofBinary : {α : Type} → Fields α → List UInt8 → Except BinaryFault (α × List UInt8)
  | _, nil, bs => .ok ((), bs)
  | _, field _ form rest, bs => do
    let (a, bs) ← form.ofBinary bs
    let (b, bs) ← rest.ofBinary bs
    return ((a, b), bs)

/-! ## JSON -/

/-- The fields as entries of an object. -/
def entries : {α : Type} → Fields α → α → List (List UInt8)
  | _, nil, _ => []
  | _, field name form rest, (a, b) =>
    (Json.writeString name ++ Json.colon :: form.toJson a) :: rest.entries b

/-- Reads the fields as the elements of a list, of which `read` have been read. -/
def ofList (expected : String) :
    {α : Type} → Fields α → (read : Nat) → List UInt8 → Except Json.Fault (α × List UInt8)
  | _, nil, _, bs => .ok ((), bs)
  | _, field _ form rest, read, bs => do
    match ← Json.nextElement (read = 0) bs with
    | none => throw (.invalidLength read expected)
    | some bs =>
      let (a, bs) ← form.ofJson bs
      let (b, bs) ← rest.ofList expected (read + 1) bs
      return ((a, b), bs)

/-- The fields of an object that have been found. -/
def Slots : {α : Type} → Fields α → Type
  | _, nil => Unit
  | _, field (α := α) _ _ rest => Option α × rest.Slots

/-- No field has been found. -/
def noSlots : {α : Type} → (fields : Fields α) → fields.Slots
  | _, nil => ()
  | _, field _ _ rest => (none, rest.noSlots)

/-- Reads the value of the field with the given name, which must not have been found before.  The
answer is nothing if no field has this name. -/
def fill (key : String) :
    {α : Type} → (fields : Fields α) → fields.Slots → List UInt8 →
      Except Json.Fault (Option (fields.Slots × List UInt8))
  | _, nil, _, _ => .ok none
  | _, field name form rest, slots, bs =>
    if key = name then
      if slots.1.isSome then .error (.duplicateField name)
      else do
        let bs ← Json.skipColon bs
        let (a, bs) ← form.ofJson bs
        return some ((some a, slots.2), bs)
    else
      (rest.fill key slots.2 bs).map fun found => found.map fun (others, bs) =>
        ((slots.1, others), bs)

/-- The fields together, if all have been found. -/
def ofSlots : {α : Type} → (fields : Fields α) → fields.Slots → Except Json.Fault α
  | _, nil, _ => .ok ()
  | _, field name _ rest, slots =>
    match slots.1 with
    | none => .error (.missingField name)
    | some a => (rest.ofSlots slots.2).map (a, ·)

/-- Goes to the next key of an object: what is behind its opening quote, or nothing if the object is
at its end, whose brace is left standing. -/
def nextKey (first : Bool) (bs : List UInt8) : Except Json.Fault (Option (List UInt8)) :=
  match Json.skipSpace bs with
  | [] => .error .endInObject
  | b :: bs =>
    if b = Json.closeObject then .ok none
    else if first then
      if b = Json.quote then .ok (some bs) else .error .keyMustBeString
    else if b = Json.comma then
      match Json.skipSpace bs with
      | [] => .error .endInValue
      | b :: bs =>
        if b = Json.quote then .ok (some bs)
        else if b = Json.closeObject then .error .trailingComma
        else .error .keyMustBeString
    else .error .expectedObjectCommaOrEnd

/-- Reads the entries of an object and its end, in as many steps as there are bytes. -/
def ofEntries {α : Type} (fields : Fields α) :
    (steps : Nat) → (first : Bool) → fields.Slots → List UInt8 →
      Except Json.Fault (α × List UInt8)
  | 0, _, _, _ => .error .endInObject
  | steps + 1, first, slots, bs => do
    match ← nextKey first bs with
    | none =>
      let a ← fields.ofSlots slots
      return (a, (Json.skipSpace bs).tail)
    | some bs =>
      let (key, bs) ← Json.readString bs
      match ← fields.fill key slots bs with
      | some (slots, bs) => fields.ofEntries steps false slots bs
      | none => fields.ofEntries steps false slots (← Json.skip (← Json.skipColon bs))

/-- Reads a record, an object or a list. -/
def ofJson {α : Type} (expected : String) (fields : Fields α) (bs : List UInt8) :
    Except Json.Fault (α × List UInt8) :=
  match Json.skipSpace bs with
  | [] => .error .endInValue
  | b :: bs =>
    if b = Json.openObject then fields.ofEntries (bs.length + 1) true fields.noSlots bs
    else if b = Json.openList then do
      let plural := if fields.length = 1 then "element" else "elements"
      let (a, bs) ←
        fields.ofList (expected ++ " with " ++ toString fields.length ++ " " ++ plural) 0 bs
      return (a, ← Json.endList bs)
    else .error (Json.wrongType expected b bs)

end Fields

/-- The form of a record, by the name that faults have for it. -/
def Form.record {α : Type} (name : String) (fields : Fields α) : Form α where
  size := fields.size
  toBinary := fields.toBinary
  ofBinary := fields.ofBinary
  toJson a := Json.openObject :: Json.separated (fields.entries a) ++ [Json.closeObject]
  ofJson := fields.ofJson ("struct " ++ name)

end WaveCache.Wire
