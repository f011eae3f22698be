import WaveCache.Proofs.Channel.Name

/-!
# Which channel names are read, and how

Rules accept a key (`Accepts`) if each code is there, is short enough and holds legal characters
only.  The location may be missing where the rules say so.  A code that is not accepted has a fault
(`CodeFault`), and a key is refused for the fault of the first such code (`FirstFault`).

Names are read accordingly.  `parse_eq_ok_iff` and `parse_eq_error_iff` say what comes of each name,
and `parse_grammar` puts them together with what they mean for keys and their names.
-/

namespace WaveCache.ChannelRules

variable {rules : ChannelRules} {key other : ChannelKey} {part : ChannelPart} {code name : String}
  {c : Char} {e : ChannelError}

/-! ## Codes -/

/-- A character that may stand in a code. -/
def Legal (c : Char) : Prop :=
  c ≠ '.' ∧ Text.isBlank c = false ∧ Text.isControl c = false

/-- What is wrong with the code in one place.  To be missing goes before being too long, and that
goes before illegal characters, of which the first one counts. -/
inductive CodeFault (rules : ChannelRules) (part : ChannelPart) (code : String) :
    ChannelError → Prop where
  | empty (hcode : code = "") (hpart : part = .location → rules.emptyLocation = false) :
    CodeFault rules part code (.empty part)
  | tooLong (hcode : code ≠ "") (hlong : rules.limit part < code.length) :
    CodeFault rules part code (.tooLong part code.length (rules.limit part))
  | illegalCharacter (hshort : code.length ≤ rules.limit part) (before after : List Char) (c : Char)
    (hsplit : code.toList = before ++ c :: after) (hbefore : ∀ d ∈ before, Legal d)
    (hc : ¬ Legal c) : CodeFault rules part code (.illegalCharacter part c)

theorem isIllegal_eq_false_iff : isIllegal c = false ↔ Legal c := by
  rw [isIllegal, Bool.or_eq_false_iff, Bool.or_eq_false_iff, decide_eq_false_iff_not, and_assoc]
  rfl

theorem isIllegal_eq_true_iff : isIllegal c = true ↔ ¬ Legal c := by
  rw [← isIllegal_eq_false_iff, Bool.not_eq_false]

theorem mayBeEmpty_eq_true_iff :
    rules.mayBeEmpty part = true ↔ part = .location ∧ rules.emptyLocation = true := by
  cases part <;> simp [mayBeEmpty]

theorem mayBeEmpty_eq_false_iff :
    rules.mayBeEmpty part = false ↔ (part = .location → rules.emptyLocation = false) := by
  cases part <;> simp [mayBeEmpty]

/-- What is found to be wrong with a code is a fault of it. -/
theorem codeFault_of_codeFault? (h : rules.codeFault? part code.toList = some e) :
    CodeFault rules part code e := by
  unfold codeFault? at h
  split at h
  · rename_i hcode
    split at h
    · cases h
    · rename_i hpart
      cases h
      exact .empty (String.toList_eq_nil_iff.mp hcode)
        (mayBeEmpty_eq_false_iff.mp (Bool.eq_false_iff.mpr hpart))
  · rename_i hcode
    rw [String.length_toList] at h
    split at h
    · rename_i hlong
      cases h
      exact .tooLong (mt String.toList_eq_nil_iff.mpr hcode) hlong
    · rename_i hshort
      obtain ⟨c, hfind, rfl⟩ := Option.map_eq_some_iff.mp h
      obtain ⟨hc, before, after, hsplit, hbefore⟩ := List.find?_eq_some_iff_append.mp hfind
      refine .illegalCharacter (Nat.le_of_not_lt hshort) before after c hsplit (fun d hd => ?_)
        (isIllegal_eq_true_iff.mp hc)
      exact isIllegal_eq_false_iff.mp (by simpa using hbefore d hd)

/-- A fault of a code is what is found to be wrong with it. -/
theorem CodeFault.codeFault?_eq (h : CodeFault rules part code e) :
    rules.codeFault? part code.toList = some e := by
  cases h with
  | empty hcode hpart =>
    have hfalse := mayBeEmpty_eq_false_iff.mpr hpart
    rw [codeFault?, if_pos (String.toList_eq_nil_iff.mpr hcode), hfalse]
    rfl
  | tooLong hcode hlong =>
    rw [codeFault?, if_neg (mt String.toList_eq_nil_iff.mp hcode), String.length_toList,
      if_pos hlong]
  | illegalCharacter hshort before after c hsplit hbefore hc =>
    have hne : code.toList ≠ [] := by simp [hsplit]
    have hfind : code.toList.find? isIllegal = some c := by
      refine List.find?_eq_some_iff_append.mpr
        ⟨isIllegal_eq_true_iff.mpr hc, before, after, hsplit, fun d hd => ?_⟩
      simpa using isIllegal_eq_false_iff.mpr (hbefore d hd)
    rw [codeFault?, if_neg hne, String.length_toList, if_neg (Nat.not_lt.mpr hshort), hfind]
    rfl

theorem codeFault?_eq_some_iff :
    rules.codeFault? part code.toList = some e ↔ CodeFault rules part code e :=
  ⟨codeFault_of_codeFault?, CodeFault.codeFault?_eq⟩

/-- A code without a fault. -/
theorem codeFault?_eq_none_iff :
    rules.codeFault? part code.toList = none ↔
      (code = "" → part = .location ∧ rules.emptyLocation = true) ∧
        code.length ≤ rules.limit part ∧ ∀ c ∈ code.toList, Legal c := by
  rw [codeFault?, ← mayBeEmpty_eq_true_iff]
  by_cases hcode : code = ""
  · subst hcode
    simp
  · rw [if_neg (mt String.toList_eq_nil_iff.mp hcode), String.length_toList]
    by_cases hlong : rules.limit part < code.length
    · simp [hlong, Nat.not_le.mpr hlong]
    · rw [if_neg hlong, Option.map_eq_none_iff, List.find?_eq_none]
      simp [hcode, Nat.le_of_not_lt hlong, ← isIllegal_eq_false_iff]

/-! ## Keys -/

/-- The keys that follow the rules. -/
structure Accepts (rules : ChannelRules) (key : ChannelKey) : Prop where
  network_ne : key.network ≠ ""
  station_ne : key.station ≠ ""
  channel_ne : key.channel ≠ ""
  location_ne : key.location ≠ "" ∨ rules.emptyLocation = true
  length_le : ∀ part, (key.code part).length ≤ rules.limit part
  legal : ∀ part, ∀ c ∈ (key.code part).toList, Legal c

/-- The fault of the first code that has one, in the order in which the codes are written. -/
def FirstFault (rules : ChannelRules) (key : ChannelKey) (e : ChannelError) : Prop :=
  ∃ before part after, ChannelPart.all = before ++ part :: after ∧
    CodeFault rules part (key.code part) e ∧
    ∀ earlier ∈ before, ∀ e', ¬ CodeFault rules earlier (key.code earlier) e'

theorem fault?_eq_some_iff : rules.fault? key = some e ↔ rules.FirstFault key e := by
  rw [fault?, List.findSome?_eq_some_iff, FirstFault]
  simp only [codeFault?_eq_some_iff, Option.eq_none_iff_forall_ne_some, ne_eq]

theorem fault?_eq_none_iff : rules.fault? key = none ↔ rules.Accepts key := by
  rw [fault?_eq_none_iff_forall_part]
  simp only [codeFault?_eq_none_iff]
  constructor
  · intro h
    refine ⟨fun hempty => ?_, fun hempty => ?_, fun hempty => ?_, ?_, fun part => (h part).2.1,
      fun part => (h part).2.2⟩
    · exact nomatch ((h .network).1 hempty).1
    · exact nomatch ((h .station).1 hempty).1
    · exact nomatch ((h .channel).1 hempty).1
    · exact Decidable.not_or_of_imp fun hempty => ((h .location).1 hempty).2
  · intro h part
    refine ⟨fun hempty => ?_, h.length_le part, h.legal part⟩
    cases part with
    | network => exact absurd hempty h.network_ne
    | station => exact absurd hempty h.station_ne
    | channel => exact absurd hempty h.channel_ne
    | location => exact ⟨rfl, h.location_ne.resolve_left (not_not_intro hempty)⟩

theorem check_eq_ok_iff : rules.check key = .ok other ↔ other = key ∧ rules.Accepts key := by
  rw [← fault?_eq_none_iff, check]
  cases rules.fault? key with
  | none => simp [eq_comm]
  | some fault => simp

theorem check_eq_error_iff : rules.check key = .error e ↔ rules.FirstFault key e := by
  rw [← fault?_eq_some_iff, check]
  cases rules.fault? key <;> simp

/-- Keys that follow the rules have no point in a code. -/
theorem Accepts.plain (h : rules.Accepts key) : key.Plain :=
  plain_of_fault?_eq_none (fault?_eq_none_iff.mpr h)

/-! ## Names -/

/-- A name is read as the key that has this name, if the rules accept that. -/
theorem parse_eq_ok_iff : rules.parse name = .ok key ↔ key.dotted = name ∧ rules.Accepts key := by
  rw [parse]
  constructor
  · intro h
    split at h
    · rename_i found hfound
      obtain ⟨rfl, haccepts⟩ := check_eq_ok_iff.mp h
      exact ⟨ChannelKey.dotted_of_ofDotted? hfound, haccepts⟩
    · cases h
  · rintro ⟨hname, haccepts⟩
    rw [ChannelKey.ofDotted?_eq_some_iff.mpr ⟨hname, haccepts.plain⟩]
    exact check_eq_ok_iff.mpr ⟨rfl, haccepts⟩

/-- A name is refused if it does not have three points, else for what is wrong first with the one
key that has this name and no point in a code. -/
theorem parse_eq_error_iff :
    rules.parse name = .error e ↔
      name.toList.count '.' ≠ 3 ∧ e = .malformedName name ∨
        ∃ key, (key.dotted = name ∧ key.Plain) ∧ rules.FirstFault key e := by
  rw [parse]
  simp only [← ChannelKey.ofDotted?_eq_some_iff]
  cases hfound : ChannelKey.ofDotted? name with
  | none =>
    have hcount : name.toList.count '.' ≠ 3 := ChannelKey.ofDotted?_eq_none_iff.mp hfound
    simp [hcount, eq_comm]
  | some key =>
    have hcount : name.toList.count '.' = 3 :=
      ChannelKey.isSome_ofDotted?_iff.mp (by rw [hfound]; rfl)
    simp [hcount, check_eq_error_iff]

/-- The grammar of channel names, for any rules and any names.  A name is read as a key if it is the
name of that key and the rules accept the key; these are the keys of `Accepts`.  Names tell such
keys apart, and reading leads from the name of one back to the key.  Everything else is refused, for
the number of its points or for the first fault of its codes. -/
theorem parse_grammar (rules : ChannelRules) :
    (∀ name key, rules.parse name = .ok key ↔
      key.dotted = name ∧ rules.check key = .ok key) ∧
    (∀ key, rules.check key = .ok key ↔ rules.Accepts key) ∧
    (∀ key other, rules.Accepts key → rules.Accepts other → key.dotted = other.dotted →
      key = other) ∧
    (∀ key, rules.Accepts key → rules.parse key.dotted = .ok key) ∧
    (∀ key e, rules.check key = .error e ↔ rules.FirstFault key e) ∧
    (∀ name e, rules.parse name = .error e ↔
      name.toList.count '.' ≠ 3 ∧ e = .malformedName name ∨
        ∃ key, (key.dotted = name ∧ key.Plain) ∧ rules.FirstFault key e) := by
  have hcheck : ∀ key, rules.check key = .ok key ↔ rules.Accepts key := by
    intro key
    rw [check_eq_ok_iff]
    exact and_iff_right rfl
  refine ⟨fun name key => ?_, hcheck, fun key other h h' hname => ?_, fun key h => ?_,
    fun key e => check_eq_error_iff, fun name e => parse_eq_error_iff⟩
  · rw [hcheck]
    exact parse_eq_ok_iff
  · exact h.plain.eq_of_dotted_eq h'.plain hname
  · exact parse_eq_ok_iff.mpr ⟨rfl, h⟩

/-- A missing location is not measured, even if the rules leave no room for one. -/
example : parse ⟨2, 4, 3, 0, true⟩ "UU.FORK.HHZ." = .ok ⟨"UU", "FORK", "HHZ", ""⟩ := by
  decide

end WaveCache.ChannelRules
