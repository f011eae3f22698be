import Mathlib.Data.List.Basic
import WaveCache.Channel.Rules

/-!
# Channels and their names

A key is plain if none of its codes holds a point.  A name with exactly three points leads to a key,
any other name leads to none (`isSome_ofDotted?_iff`), and the key is the one plain key with that
name (`ofDotted?_eq_some_iff`).  So plain keys and names with three points belong to each other one
to one, whatever else is in them and however many of the codes are empty.

Rules allow no point in a code, which is why the keys that they accept are plain.
-/

namespace WaveCache

namespace ChannelKey

variable {key other : ChannelKey} {name : String}

/-- No code holds the character that goes between two codes. -/
def Plain (key : ChannelKey) : Prop :=
  ∀ code ∈ key.codes, separator ∉ code.toList

instance (key : ChannelKey) : Decidable key.Plain :=
  inferInstanceAs (Decidable (∀ code ∈ key.codes, separator ∉ code.toList))

/-! ## From a name to its key -/

/-- The codes are the pieces of the name. -/
theorem codes_of_ofDotted? (h : ofDotted? name = some key) :
    key.codes = (Text.split separator name.toList).map String.ofList := by
  unfold ofDotted? at h
  split at h
  case h_1 network station channel location hs =>
    cases h
    rw [hs]
    rfl
  case h_2 => cases h

theorem plain_of_ofDotted? (h : ofDotted? name = some key) : key.Plain := by
  intro code hcode
  rw [codes_of_ofDotted? h] at hcode
  obtain ⟨piece, hpiece, rfl⟩ := List.mem_map.mp hcode
  rw [String.toList_ofList]
  exact Text.not_mem_of_mem_split hpiece

/-- A name leads to the one plain key that has this name. -/
theorem ofDotted?_eq_some_iff : ofDotted? name = some key ↔ key.dotted = name ∧ key.Plain := by
  constructor
  · intro h
    exact ⟨dotted_of_ofDotted? h, plain_of_ofDotted? h⟩
  · rintro ⟨rfl, hplain⟩
    exact ofDotted?_dotted hplain

/-- The number of points decides whether a name leads to a key. -/
theorem isSome_ofDotted?_iff : (ofDotted? name).isSome ↔ name.toList.count separator = 3 := by
  have hlength := Text.length_split separator name.toList
  unfold ofDotted?
  split
  case h_1 network station channel location hs =>
    rw [hs] at hlength
    simp only [List.length_cons, List.length_nil] at hlength
    simp only [Option.isSome_some, true_iff]
    omega
  case h_2 hs =>
    simp only [Option.isSome_none, Bool.false_eq_true, false_iff]
    intro hcount
    rw [hcount] at hlength
    obtain ⟨network, station, channel, location, heq⟩ := List.length_eq_four.mp hlength
    exact hs network station channel location heq

theorem ofDotted?_eq_none_iff : ofDotted? name = none ↔ name.toList.count separator ≠ 3 := by
  rw [ne_eq, ← isSome_ofDotted?_iff, Option.not_isSome_iff_eq_none]

/-- Plain keys are told apart by their names. -/
theorem Plain.eq_of_dotted_eq (h : key.Plain) (h' : other.Plain)
    (hname : key.dotted = other.dotted) : key = other := by
  have hkey := ofDotted?_dotted h
  rw [hname, ofDotted?_dotted h'] at hkey
  exact (Option.some.inj hkey).symm

end ChannelKey

/-! ## Rules -/

namespace ChannelRules

theorem separator_not_mem_of_codeFault?_eq_none {rules : ChannelRules} {part : ChannelPart}
    {code : List Char} (h : rules.codeFault? part code = none) : ChannelKey.separator ∉ code := by
  intro hmem
  unfold codeFault? at h
  rw [if_neg (List.ne_nil_of_mem hmem)] at h
  split at h
  · cases h
  · rw [Option.map_eq_none_iff, List.find?_eq_none] at h
    exact h _ hmem (by simp [isIllegal])

/-- Nothing is wrong with a key if nothing is wrong with any of its codes. -/
theorem fault?_eq_none_iff_forall_part {rules : ChannelRules} {key : ChannelKey} :
    rules.fault? key = none ↔ ∀ part, rules.codeFault? part (key.code part).toList = none := by
  rw [fault?, List.findSome?_eq_none_iff]
  constructor
  · intro h part
    exact h part (by cases part <;> decide)
  · intro h part _
    exact h part

/-- The keys that some rules accept are plain. -/
theorem plain_of_fault?_eq_none {rules : ChannelRules} {key : ChannelKey}
    (h : rules.fault? key = none) : key.Plain := by
  intro code hcode
  obtain ⟨part, _, rfl⟩ : ∃ part ∈ ChannelPart.all, key.code part = code :=
    List.mem_map.mp hcode
  exact separator_not_mem_of_codeFault?_eq_none (fault?_eq_none_iff_forall_part.mp h part)

end ChannelRules

end WaveCache
