import WaveCache.Node.Config
import WaveCache.Proofs.Text.Count

/-!
# The layers of a configuration

What settings and variables make of a configuration, said field by field (`Layered`), and what can
be wrong with them (`layerFaults`), in the order in which it is looked for.  If nothing is wrong the
configuration is what the layers give, and it is sound; else the first fault is reported
(`override_ofSettings`).

The file is checked by itself.  So a variable that would mend it is not even read, and after that a
variable can do no more harm than to be no number or to be zero.
-/

namespace WaveCache

/-! ## Variables -/

namespace Environment

variable {environment : Environment} {name : String} {otherwise m n : UInt64}

/-- A variable is set, to a text that stands for the number. -/
def Holds (environment : Environment) (name : String) (n : Nat) : Prop :=
  ∃ value, environment name = some value ∧ IsCount value n

/-- A variable is set, to a text that stands for no number below `2 ^ 64`. -/
def Garbles (environment : Environment) (name : String) : Prop :=
  environment name ≠ none ∧ ∀ n < UInt64.size, ¬ environment.Holds name n

/-- The number in a variable, or another if the variable is not set. -/
def Chooses (environment : Environment) (name : String) (otherwise n : UInt64) : Prop :=
  environment.Holds name n.toNat ∨ environment name = none ∧ n = otherwise

theorem Holds.ne_none {n : Nat} (h : environment.Holds name n) : environment name ≠ none := by
  obtain ⟨value, hvalue, _⟩ := h
  rw [hvalue]
  exact Option.some_ne_none value

theorem holds_iff : environment.Holds name n.toNat ↔
    ∃ value, environment name = some value ∧ readCount value = some n := by
  simp only [Holds, readCount_eq_some_iff]

theorem garbles_iff : environment.Garbles name ↔
    ∃ value, environment name = some value ∧ readCount value = none := by
  constructor
  · rintro ⟨hset, hno⟩
    obtain ⟨value, hvalue⟩ := Option.ne_none_iff_exists'.mp hset
    refine ⟨value, hvalue, Option.eq_none_iff_forall_ne_some.mpr fun n hcount => ?_⟩
    exact hno _ n.toNat_lt_size (holds_iff.mpr ⟨value, hvalue, hcount⟩)
  · rintro ⟨value, hvalue, hcount⟩
    refine ⟨by simp [hvalue], fun n hn hholds => ?_⟩
    rw [← UInt64.toNat_ofNat_of_lt' hn, holds_iff] at hholds
    obtain ⟨value', hvalue', hcount'⟩ := hholds
    rw [hvalue] at hvalue'
    rw [← Option.some.inj hvalue', hcount] at hcount'
    cases hcount'

theorem Holds.unique (hm : environment.Holds name m.toNat) (hn : environment.Holds name n.toNat) :
    m = n := by
  obtain ⟨value, hvalue, hm⟩ := holds_iff.mp hm
  obtain ⟨value', hvalue', hn⟩ := holds_iff.mp hn
  rw [hvalue] at hvalue'
  rw [← Option.some.inj hvalue', hm] at hn
  exact Option.some.inj hn

theorem Chooses.eq_zero_iff (h : environment.Chooses name otherwise n) (hne : otherwise ≠ 0) :
    n = 0 ↔ environment.Holds name 0 := by
  constructor
  · rintro rfl
    rcases h with h | ⟨_, h⟩
    · exact h
    · exact absurd h.symm hne
  · intro hzero
    rcases h with h | ⟨hnone, _⟩
    · exact h.unique hzero
    · exact absurd hnone hzero.ne_none

theorem Chooses.unique (hm : environment.Chooses name otherwise m)
    (hn : environment.Chooses name otherwise n) : m = n := by
  rcases hm with hm | ⟨hnone, rfl⟩
  · rcases hn with hn | ⟨hnone, _⟩
    · exact hm.unique hn
    · exact absurd hnone hm.ne_none
  · rcases hn with hn | ⟨_, rfl⟩
    · exact absurd hnone hn.ne_none
    · rfl

theorem Garbles.not_chooses (h : environment.Garbles name) :
    ¬ environment.Chooses name otherwise n := by
  rintro (hn | ⟨hnone, _⟩)
  · exact h.2 _ n.toNat_lt_size hn
  · exact h.1 hnone

end Environment

/-! ## Faults -/

/-- The error of the first cause in a list that is there. -/
inductive NodeConfig.FirstFault : List (Prop × NodeConfigError) → NodeConfigError → Prop where
  | here {cause : Prop} {error : NodeConfigError} {faults : List (Prop × NodeConfigError)}
      (h : cause) : NodeConfig.FirstFault ((cause, error) :: faults) error
  | later {cause : Prop} {error error' : NodeConfigError} {faults : List (Prop × NodeConfigError)}
      (h : ¬ cause) (hlater : NodeConfig.FirstFault faults error) :
      NodeConfig.FirstFault ((cause, error') :: faults) error

namespace NodeConfig.FirstFault

variable {faults faults' : List (Prop × NodeConfigError)} {cause : Prop}
  {error error' : NodeConfigError}

theorem not_nil : ¬ FirstFault [] error :=
  nofun

theorem cons_iff : FirstFault ((cause, error') :: faults) error ↔
    cause ∧ error' = error ∨ ¬ cause ∧ FirstFault faults error := by
  constructor
  · intro h
    cases h with
    | here h => exact .inl ⟨h, rfl⟩
    | later h hlater => exact .inr ⟨h, hlater⟩
  · rintro (⟨h, rfl⟩ | ⟨h, hlater⟩)
    · exact .here h
    · exact .later h hlater

/-- If no error is first then there is no cause for any. -/
theorem forall_not_iff : (∀ error, ¬ FirstFault faults error) ↔ ∀ fault ∈ faults, ¬ fault.1 := by
  induction faults with
  | nil => simp [not_nil]
  | cons fault faults ih =>
    rw [List.forall_mem_cons, ← ih]
    constructor
    · intro h
      have hcause : ¬ fault.1 := fun hcause => h fault.2 (.here hcause)
      exact ⟨hcause, fun error hlater => h error (.later hcause hlater)⟩
    · rintro ⟨hcause, hlater⟩ error h
      cases h with
      | here h => exact hcause h
      | later _ h => exact hlater error h

theorem append_iff : FirstFault (faults ++ faults') error ↔
    FirstFault faults error ∨ (∀ fault ∈ faults, ¬ fault.1) ∧ FirstFault faults' error := by
  induction faults with
  | nil => simp [not_nil]
  | cons fault faults ih =>
    rw [List.cons_append, cons_iff, cons_iff, ih, List.forall_mem_cons]
    tauto

end NodeConfig.FirstFault

namespace NodeConfig

variable {config config' : NodeConfig} {settings : Settings} {environment : Environment}
  {name : String} {otherwise n : UInt64} {error : NodeConfigError}

/-- What can be wrong with a configuration by itself. -/
def faults (config : NodeConfig) : List (Prop × NodeConfigError) :=
  [(config.cache.maxPackets = 0, .cache .zeroPacketCapacity),
    (config.cache.maxChannels = 0, .cache .zeroChannelCapacity),
    (config.cache.rules.isConsistent = false, .cache .invalidRules),
    (config.allow ≠ [] ∧ config.deny ≠ [], .conflictingPeers)]

/-- What can be wrong with variables over a configuration with which nothing is wrong. -/
def variableFaults (environment : Environment) : List (Prop × NodeConfigError) :=
  [(environment.Garbles channelsVariable,
      .badVariable channelsVariable ((environment channelsVariable).getD "")),
    (environment.Garbles packetsVariable,
      .badVariable packetsVariable ((environment packetsVariable).getD "")),
    (environment.Holds packetsVariable 0, .cache .zeroPacketCapacity),
    (environment.Holds channelsVariable 0, .cache .zeroChannelCapacity)]

/-- What can be wrong with settings and with variables over them. -/
def layerFaults (settings : Settings) (environment : Environment) :
    List (Prop × NodeConfigError) :=
  (layer settings).faults ++ variableFaults environment

/-- A configuration that a node can run with. -/
structure Sound (config : NodeConfig) : Prop where
  packets : config.cache.maxPackets ≠ 0
  channels : config.cache.maxChannels ≠ 0
  rules : config.cache.rules.isConsistent = true
  peers : ¬ (config.allow ≠ [] ∧ config.deny ≠ [])

theorem sound_iff : config.Sound ↔ ∀ fault ∈ config.faults, ¬ fault.1 := by
  simp only [faults, List.forall_mem_cons, List.not_mem_nil, false_implies, implies_true, and_true,
    Bool.not_eq_false]
  exact ⟨fun h => ⟨h.packets, h.channels, h.rules, h.peers⟩,
    fun h => ⟨h.1, h.2.1, h.2.2.1, h.2.2.2⟩⟩

theorem fault?_eq_some_iff : config.fault? = some error ↔ FirstFault config.faults error := by
  rw [fault?, CacheConfig.fault?]
  simp only [faults, FirstFault.cons_iff, FirstFault.not_nil, and_false, or_false]
  by_cases hpackets : config.cache.maxPackets = 0
  · simp [hpackets]
  by_cases hchannels : config.cache.maxChannels = 0
  · simp [hpackets, hchannels]
  by_cases hrules : config.cache.rules.isConsistent = false
  · simp [hpackets, hchannels, hrules]
  · simp [hpackets, hchannels, hrules]

theorem fault?_eq_none_iff : config.fault? = none ↔ config.Sound := by
  simp only [sound_iff, Option.eq_none_iff_forall_ne_some, ne_eq, fault?_eq_some_iff,
    FirstFault.forall_not_iff]

theorem check_eq_ok_iff : config.check = .ok config' ↔ config.Sound ∧ config' = config := by
  rw [check, ← fault?_eq_none_iff]
  cases config.fault? with
  | some fault => simp
  | none => simp [eq_comm]

theorem check_eq_error_iff : config.check = .error error ↔ FirstFault config.faults error := by
  rw [check, ← fault?_eq_some_iff]
  cases config.fault? with
  | some fault => simp
  | none => simp

/-! ## The variables over a configuration -/

theorem variableOr_eq_ok_iff :
    variableOr environment name otherwise = .ok n ↔ environment.Chooses name otherwise n := by
  rw [variableOr, Environment.Chooses, Environment.holds_iff]
  cases hvalue : environment name with
  | none => simp [eq_comm]
  | some value =>
    cases hcount : readCount value with
    | none => simp [hcount]
    | some count => simp [hcount]

theorem variableOr_eq_error_iff : variableOr environment name otherwise = .error error ↔
    environment.Garbles name ∧ error = .badVariable name ((environment name).getD "") := by
  rw [variableOr, Environment.garbles_iff]
  cases hvalue : environment name with
  | none => simp
  | some value =>
    cases hcount : readCount value with
    | none => simp [hcount, eq_comm]
    | some count => simp [hcount]

/-- The configuration with other bounds. -/
def withBounds (config : NodeConfig) (maxChannels maxPackets : UInt64) : NodeConfig :=
  { config with cache := { config.cache with maxChannels, maxPackets } }

theorem override_of_error (h : variableOr environment channelsVariable config.cache.maxChannels =
    .error error) : config.override environment = .error error := by
  rw [NodeConfig.override, h]
  rfl

theorem override_of_ok {maxChannels : UInt64}
    (h : environment.Chooses channelsVariable config.cache.maxChannels maxChannels) :
    config.override environment =
      (variableOr environment packetsVariable config.cache.maxPackets).bind fun maxPackets =>
        (config.withBounds maxChannels maxPackets).check := by
  rw [NodeConfig.override, variableOr_eq_ok_iff.mpr h]
  rfl

theorem override_eq_ok_iff : config.override environment = .ok config' ↔
    ∃ maxChannels maxPackets,
      environment.Chooses channelsVariable config.cache.maxChannels maxChannels ∧
      environment.Chooses packetsVariable config.cache.maxPackets maxPackets ∧
      (config.withBounds maxChannels maxPackets).check = .ok config' := by
  simp only [← variableOr_eq_ok_iff]
  cases hchannels : variableOr environment channelsVariable config.cache.maxChannels with
  | error error => simp [override_of_error hchannels]
  | ok maxChannels =>
    rw [override_of_ok (variableOr_eq_ok_iff.mp hchannels)]
    cases variableOr environment packetsVariable config.cache.maxPackets with
    | error error => simp [Except.bind]
    | ok maxPackets => simp [Except.bind]

/-- With nothing wrong in the configuration, only the variables can be wrong. -/
theorem override_eq_error_iff (hsound : config.Sound) : config.override environment = .error error ↔
    FirstFault (variableFaults environment) error := by
  simp only [variableFaults, FirstFault.cons_iff, FirstFault.not_nil, and_false, or_false]
  cases hchannels : variableOr environment channelsVariable config.cache.maxChannels with
  | error error' =>
    obtain ⟨hgarbles, rfl⟩ := variableOr_eq_error_iff.mp hchannels
    simp [override_of_error hchannels, hgarbles]
  | ok maxChannels =>
    have hchannels := variableOr_eq_ok_iff.mp hchannels
    have hread : ¬ environment.Garbles channelsVariable := fun h => h.not_chooses hchannels
    rw [override_of_ok hchannels]
    cases hpackets : variableOr environment packetsVariable config.cache.maxPackets with
    | error error' =>
      obtain ⟨hgarbles, rfl⟩ := variableOr_eq_error_iff.mp hpackets
      simp [Except.bind, hread, hgarbles]
    | ok maxPackets =>
      have hpackets := variableOr_eq_ok_iff.mp hpackets
      have hread' : ¬ environment.Garbles packetsVariable := fun h => h.not_chooses hpackets
      rw [Except.bind, check_eq_error_iff]
      -- rules and peers are as they were, so what can be wrong is a bound from a variable
      simp only [faults, withBounds, FirstFault.cons_iff, FirstFault.not_nil,
        hpackets.eq_zero_iff hsound.packets, hchannels.eq_zero_iff hsound.channels, hsound.rules,
        hsound.peers, hread, hread']
      simp

/-! ## All layers -/

/-- Every field is from its variable if there is one and it is set, else from the settings, and from
the standard values if they leave it out. -/
structure Layered (settings : Settings) (environment : Environment) (config : NodeConfig) :
    Prop where
  maxChannels : environment.Chooses channelsVariable
    (settings.maxChannels.getD standard.cache.maxChannels) config.cache.maxChannels
  maxPackets : environment.Chooses packetsVariable
    (settings.maxPackets.getD standard.cache.maxPackets) config.cache.maxPackets
  maxNetwork : config.cache.rules.maxNetwork =
    settings.maxNetwork.getD standard.cache.rules.maxNetwork
  maxStation : config.cache.rules.maxStation =
    settings.maxStation.getD standard.cache.rules.maxStation
  maxChannel : config.cache.rules.maxChannel =
    settings.maxChannel.getD standard.cache.rules.maxChannel
  maxLocation : config.cache.rules.maxLocation =
    settings.maxLocation.getD standard.cache.rules.maxLocation
  emptyLocation : config.cache.rules.emptyLocation =
    settings.emptyLocation.getD standard.cache.rules.emptyLocation
  tooOld : config.cache.tooOld = settings.tooOld.getD standard.cache.tooOld
  capacity : config.bus.capacity = settings.busCapacity.getD standard.bus.capacity
  depth : config.bus.depth = settings.queueDepth.getD standard.bus.depth
  timeout : config.bus.timeout = settings.timeout.getD standard.bus.timeout
  allow : config.allow = settings.allow
  deny : config.deny = settings.deny
  encoding : config.encoding = settings.encoding.getD standard.encoding

theorem layered_iff : Layered settings environment config ↔ ∃ maxChannels maxPackets,
    environment.Chooses channelsVariable (layer settings).cache.maxChannels maxChannels ∧
    environment.Chooses packetsVariable (layer settings).cache.maxPackets maxPackets ∧
    config = (layer settings).withBounds maxChannels maxPackets := by
  constructor
  · intro h
    refine ⟨_, _, h.maxChannels, h.maxPackets, ?_⟩
    simp only [withBounds, layer, ← h.maxNetwork, ← h.maxStation, ← h.maxChannel, ← h.maxLocation,
      ← h.emptyLocation, ← h.tooOld, ← h.capacity, ← h.depth, ← h.timeout, ← h.allow, ← h.deny,
      ← h.encoding]
  · rintro ⟨maxChannels, maxPackets, hchannels, hpackets, rfl⟩
    exact ⟨hchannels, hpackets, rfl, rfl, rfl, rfl, rfl, rfl, rfl, rfl, rfl, rfl, rfl, rfl⟩

theorem Layered.unique (h : Layered settings environment config)
    (h' : Layered settings environment config') : config = config' := by
  obtain ⟨maxChannels, maxPackets, hchannels, hpackets, rfl⟩ := layered_iff.mp h
  obtain ⟨maxChannels', maxPackets', hchannels', hpackets', rfl⟩ := layered_iff.mp h'
  rw [hchannels.unique hchannels', hpackets.unique hpackets']

/-- A configuration that comes out of the layers is sound, and it is what they say. -/
theorem layered_of_ok (h : (ofSettings settings).bind (·.override environment) = .ok config) :
    Layered settings environment config ∧ config.Sound := by
  rw [ofSettings] at h
  cases hcheck : (layer settings).check with
  | error error =>
    rw [hcheck] at h
    cases h
  | ok base =>
    obtain ⟨_, rfl⟩ := check_eq_ok_iff.mp hcheck
    rw [hcheck] at h
    obtain ⟨maxChannels, maxPackets, hchannels, hpackets, hcheck⟩ := override_eq_ok_iff.mp h
    obtain ⟨hsound, rfl⟩ := check_eq_ok_iff.mp hcheck
    exact ⟨layered_iff.mpr ⟨maxChannels, maxPackets, hchannels, hpackets, rfl⟩, hsound⟩

/-- What goes wrong with the layers is the first fault in them. -/
theorem eq_error_iff_firstFault :
    (ofSettings settings).bind (·.override environment) = .error error ↔
      FirstFault (layerFaults settings environment) error := by
  rw [layerFaults, FirstFault.append_iff, ← FirstFault.forall_not_iff, ofSettings]
  simp only [← check_eq_error_iff]
  cases hcheck : (layer settings).check with
  | error error' => simp [Except.bind]
  | ok base =>
    obtain ⟨hsound, rfl⟩ := check_eq_ok_iff.mp hcheck
    simpa [Except.bind] using override_eq_error_iff hsound

/-- The layers of a configuration, from the file to the variables.  There is a configuration exactly
if nothing is wrong, and then every field is from the first layer that says something on it, and
nothing is wrong with all fields together.  Else the first fault is reported: of the file by itself,
of a variable that is no number, of a variable that is zero. -/
theorem override_ofSettings (settings : Settings) (environment : Environment) :
    let outcome := (ofSettings settings).bind (·.override environment)
    (∀ text, Settings.read text = some settings →
      (parse text).bind (·.override environment) = outcome) ∧
    (∀ config, outcome = .ok config ↔ (∀ fault ∈ layerFaults settings environment, ¬ fault.1) ∧
      Layered settings environment config) ∧
    (∀ config, outcome = .ok config → config.check = .ok config ∧ config.Sound) ∧
    (∀ error, outcome = .error error ↔ FirstFault (layerFaults settings environment) error) := by
  intro outcome
  refine ⟨fun text hread => ?_, fun config => ?_, fun config hok => ?_,
    fun error => eq_error_iff_firstFault⟩
  · rw [parse, hread]
  · rw [← FirstFault.forall_not_iff]
    constructor
    · intro hok
      refine ⟨fun error herror => ?_, (layered_of_ok hok).1⟩
      cases hok.symm.trans (eq_error_iff_firstFault.mpr herror)
    · rintro ⟨hno, hlayered⟩
      cases houtcome : outcome with
      | error error => exact absurd (eq_error_iff_firstFault.mp houtcome) (hno error)
      | ok config' => rw [(layered_of_ok houtcome).1.unique hlayered]
  · have hsound := (layered_of_ok hok).2
    exact ⟨check_eq_ok_iff.mpr ⟨hsound, rfl⟩, hsound⟩

/-- A variable does not mend a file. -/
example : (parse "[cache]\nmax_channels = 0").bind (·.override fun _ => some " +7 ") =
    .error (.cache .zeroChannelCapacity) := by
  decide +kernel

end NodeConfig

end WaveCache
