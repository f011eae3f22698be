import WaveCache.Text.Split

/-!
# Channel keys

A channel is named by four codes: network, station, channel and location.  Its dotted name is the
four codes with a point between each two.  `ofDotted?_dotted` says that a dotted name leads back to
its key as long as no code holds a point, and `dotted_of_ofDotted?` that a name never leads to a key
with another dotted name.

In `ChannelKey`, `dotted` is how a key is displayed, and `ofDotted?` is `split_dotted`, which
applies no rules.
-/

namespace WaveCache

/-- The four codes of a channel. -/
structure ChannelKey where
  network : String
  station : String
  channel : String
  location : String
deriving DecidableEq, Inhabited

/-- The places of the four codes in a key. -/
inductive ChannelPart where
  | network
  | station
  | channel
  | location
deriving DecidableEq

namespace ChannelPart

/-- The four places, in the order in which they are written and checked. -/
def all : List ChannelPart := [network, station, channel, location]

/-- The name of a place in a message. -/
def name : ChannelPart → String
  | network => "network"
  | station => "station"
  | channel => "channel"
  | location => "location"

end ChannelPart

namespace ChannelKey

/-- The code in one place. -/
def code (key : ChannelKey) : ChannelPart → String
  | .network => key.network
  | .station => key.station
  | .channel => key.channel
  | .location => key.location

/-- The four codes in order. -/
def codes (key : ChannelKey) : List String :=
  [key.network, key.station, key.channel, key.location]

/-- Keys are ordered by their codes, the first that differs deciding. -/
instance : LE ChannelKey where
  le a b := List.le a.codes b.codes

instance : LT ChannelKey where
  lt a b := List.lt a.codes b.codes

instance (a b : ChannelKey) : Decidable (a ≤ b) :=
  List.decidableLE a.codes b.codes

instance (a b : ChannelKey) : Decidable (a < b) :=
  List.decidableLT a.codes b.codes

/-- Keys in ascending order. -/
def sort (keys : List ChannelKey) : List ChannelKey :=
  keys.mergeSort fun a b => decide (a ≤ b)

/-- The character between two codes of a dotted name. -/
def separator : Char := '.'

/-- The dotted name, as characters. -/
def dottedChars (key : ChannelKey) : List Char :=
  Text.join separator (key.codes.map String.toList)

/-- The dotted name of a channel, `NET.STA.CHA.LOC`. -/
def dotted (key : ChannelKey) : String :=
  String.ofList key.dottedChars

/-- The key that a name with exactly three points stands for.  Any code may be empty. -/
def ofDotted? (name : String) : Option ChannelKey :=
  match Text.split separator name.toList with
  | [network, station, channel, location] =>
    some ⟨String.ofList network, String.ofList station, String.ofList channel,
      String.ofList location⟩
  | _ => none

/-! ## Facts -/

theorem dotted_of_ofDotted? {name : String} {key : ChannelKey} (h : ofDotted? name = some key) :
    key.dotted = name := by
  unfold ofDotted? at h
  split at h
  case h_1 network station channel location hs =>
    cases h
    have := Text.join_split separator name.toList
    rw [hs] at this
    simp [dotted, dottedChars, codes, this]
  case h_2 => cases h

theorem ofDotted?_dotted {key : ChannelKey} (h : ∀ code ∈ key.codes, separator ∉ code.toList) :
    ofDotted? key.dotted = some key := by
  have hs : Text.split separator key.dotted.toList = key.codes.map String.toList := by
    rw [dotted, String.toList_ofList, dottedChars]
    refine Text.split_join (by simp [codes]) fun piece hp => ?_
    obtain ⟨code, hc, rfl⟩ := List.mem_map.mp hp
    exact h code hc
  simp [ofDotted?, hs, codes]

end ChannelKey

end WaveCache
