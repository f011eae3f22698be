import WaveCache.Wire.Form

/-!
# Choices

A choice is between named variants, each with data or without.  In bytes a variant is its number in
four bytes, then its data.  In JSON a variant without data is its name as a string; one with data is
an object with the name as its only key.  A variant without data may also be written as an object,
with `null`.

`Variants α` describes the variants of a choice whose values, taken together in nested sums, make an
`α`.
-/

namespace WaveCache.Wire

/-- The names of the variants of a choice and the forms of their data. -/
inductive Variants : Type → Type 1 where
  | nil : Variants Empty
  | bare {β : Type} (name : String) (rest : Variants β) : Variants (Unit ⊕ β)
  | data {α β : Type} (name : String) (form : Form α) (rest : Variants β) : Variants (α ⊕ β)

namespace Variants

open WaveCache.Text

/-- The names of the variants in order. -/
def names : {α : Type} → Variants α → List String
  | _, nil => []
  | _, bare name rest => name :: rest.names
  | _, data name _ rest => name :: rest.names

/-! ## Bytes -/

/-- The number of a variant. -/
def tag : {α : Type} → Variants α → α → Nat
  | _, nil, a => nomatch a
  | _, bare _ _, .inl _ => 0
  | _, bare _ rest, .inr b => rest.tag b + 1
  | _, data _ _ _, .inl _ => 0
  | _, data _ _ rest, .inr b => rest.tag b + 1

/-- The number of bytes that the data of a variant take. -/
def size : {α : Type} → Variants α → α → Nat
  | _, nil, a => nomatch a
  | _, bare _ _, .inl _ => 0
  | _, bare _ rest, .inr b => rest.size b
  | _, data _ form _, .inl a => form.size a
  | _, data _ _ rest, .inr b => rest.size b

/-- The data of a variant in bytes. -/
def toBinary : {α : Type} → Variants α → α → List UInt8
  | _, nil, a => nomatch a
  | _, bare _ _, .inl _ => []
  | _, bare _ rest, .inr b => rest.toBinary b
  | _, data _ form _, .inl a => form.toBinary a
  | _, data _ _ rest, .inr b => rest.toBinary b

/-- Reads the data of the variant with the given number; nothing if there is none. -/
def ofBinary : {α : Type} → Variants α → (tag : Nat) → List UInt8 →
    Option (Except BinaryFault (α × List UInt8))
  | _, nil, _, _ => none
  | _, bare _ _, 0, bs => some (.ok (.inl (), bs))
  | _, bare _ rest, tag + 1, bs =>
    (rest.ofBinary tag bs).map fun r => r.map fun (b, bs) => (.inr b, bs)
  | _, data _ form _, 0, bs => some ((form.ofBinary bs).map fun (a, bs) => (.inl a, bs))
  | _, data _ _ rest, tag + 1, bs =>
    (rest.ofBinary tag bs).map fun r => r.map fun (b, bs) => (.inr b, bs)

/-! ## JSON -/

/-- A variant in JSON. -/
def toJson : {α : Type} → Variants α → α → List UInt8
  | _, nil, a => nomatch a
  | _, bare name _, .inl _ => Json.writeString name
  | _, bare _ rest, .inr b => rest.toJson b
  | _, data name form _, .inl a =>
    Json.openObject :: Json.writeString name ++ Json.colon :: form.toJson a ++ [Json.closeObject]
  | _, data _ _ rest, .inr b => rest.toJson b

/-- The variant that is given by its name alone; nothing if no variant has this name. -/
def ofName (key : String) : {α : Type} → Variants α → Option (Except Json.Fault α)
  | _, nil => none
  | _, bare name rest =>
    if key = name then some (.ok (.inl ())) else (rest.ofName key).map fun r => r.map .inr
  | _, data name _ rest =>
    if key = name then some (.error (.invalidType .unitVariant "newtype variant"))
    else (rest.ofName key).map fun r => r.map .inr

/-- Reads `null`. -/
def readNull (bs : List UInt8) : Except Json.Fault (Unit × List UInt8) :=
  match Json.skipSpace bs with
  | [] => .error .endInValue
  | b :: bs =>
    match Json.readWordFrom b bs with
    | some (.ok (.null, bs)) => .ok ((), bs)
    | _ => .error (Json.wrongType "unit" b bs)

/-- How the data of the variant with the given name are read; nothing if no variant has this name.
-/
def ofEntry (key : String) : {α : Type} → Variants α →
    Option (List UInt8 → Except Json.Fault (α × List UInt8))
  | _, nil => none
  | _, bare name rest =>
    if key = name then some fun bs => (readNull bs).map fun (_, bs) => (.inl (), bs)
    else (rest.ofEntry key).map fun read bs => (read bs).map fun (b, bs) => (.inr b, bs)
  | _, data name form rest =>
    if key = name then some fun bs => (form.ofJson bs).map fun (a, bs) => (.inl a, bs)
    else (rest.ofEntry key).map fun read bs => (read bs).map fun (b, bs) => (.inr b, bs)

/-- Reads the end of the object around a variant. -/
def endEntry (bs : List UInt8) : Except Json.Fault (List UInt8) :=
  match Json.skipSpace bs with
  | [] => .error .endInObject
  | b :: bs => if b = Json.closeObject then .ok bs else .error .expectedValue

/-- Reads the name of a variant as the key of an object. -/
def readKey (bs : List UInt8) : Except Json.Fault (String × List UInt8) :=
  match Json.skipSpace bs with
  | [] => .error .endInObject
  | b :: bs =>
    if b = Json.quote then Json.readString bs
    else if b = Json.closeObject then .error .expectedValue
    else .error .keyMustBeString

/-- Reads a variant, a string or an object. -/
def ofJson {α : Type} (variants : Variants α) (bs : List UInt8) :
    Except Json.Fault (α × List UInt8) :=
  match Json.skipSpace bs with
  | [] => .error .endInValue
  | b :: bs =>
    if b = Json.quote then do
      let (key, bs) ← Json.readString bs
      match variants.ofName key with
      | some variant => return (← variant, bs)
      | none => throw (.unknownVariant key variants.names)
    else if b = Json.openObject then do
      let (key, bs) ← readKey bs
      match variants.ofEntry key with
      | some read =>
        let (a, bs) ← read (← Json.skipColon bs)
        return (a, ← endEntry bs)
      | none => throw (.unknownVariant key variants.names)
    else .error .expectedValue

end Variants

/-- The form of a choice. -/
def Form.choice {α : Type} (variants : Variants α) : Form α where
  size a := 4 + variants.size a
  toBinary a := Binary.bytesOfNat 4 (variants.tag a) ++ variants.toBinary a
  ofBinary bs := do
    let (tag, bs) ← Binary.readNat 4 bs
    match variants.ofBinary tag bs with
    | some read => read
    | none => throw (.badVariant tag variants.names.length)
  toJson := variants.toJson
  ofJson := variants.ofJson

end WaveCache.Wire
