import WaveCache.Proofs.Node.Layers
import WaveCache.Proofs.Service.Reply
import WaveCache.Service.Ingest

/-!
# Peers that are refused

A configuration that was loaded names peers to let in or peers to shut out, not both, so its rule
shuts out the peers that it says (`NodeConfig.admits_authorizer_eq_false`).

The reply to a peer that is shut out is made from its request alone, and the service only counts
that it refused one.  So nothing in the service can be told from such replies, and nothing in it but
two counters is changed by such requests.
-/

namespace WaveCache

/-! ## Rules -/

theorem Peer.mem_map_mk {peer : Peer} {names : List String} :
    peer ∈ names.map Peer.mk ↔ peer.name ∈ names := by
  constructor
  · intro h
    obtain ⟨name, hname, rfl⟩ := List.mem_map.mp h
    exact hname
  · intro h
    exact List.mem_map.mpr ⟨peer.name, h, rfl⟩

namespace NodeConfig

/-- A configuration from a file, with what variables say over it any number of times. -/
inductive Loaded : NodeConfig → Prop where
  | parse {text : String} {config : NodeConfig} (h : parse text = .ok config) : Loaded config
  | override {base config : NodeConfig} {environment : Environment} (hbase : Loaded base)
      (h : base.override environment = .ok config) : Loaded config

variable {config : NodeConfig}

/-- It is checked after the file, and after the variables. -/
theorem Loaded.sound (h : Loaded config) : config.Sound := by
  cases h with
  | @parse text _ h =>
    rw [NodeConfig.parse] at h
    cases hread : Settings.read text with
    | none =>
      rw [hread] at h
      cases h
    | some settings =>
      rw [hread] at h
      obtain ⟨hsound, rfl⟩ := check_eq_ok_iff.mp h
      exact hsound
  | override _ h =>
    obtain ⟨_, _, _, _, hcheck⟩ := override_eq_ok_iff.mp h
    obtain ⟨hsound, rfl⟩ := check_eq_ok_iff.mp hcheck
    exact hsound

/-- Peers are not both let in and shut out by name. -/
theorem Loaded.not_conflicting (h : Loaded config) : ¬ (config.allow ≠ [] ∧ config.deny ≠ []) :=
  h.sound.peers

/-- A peer is shut out if it is named as one to shut out, or if others are named as those to let in.
-/
theorem admits_authorizer_eq_false (h : ¬ (config.allow ≠ [] ∧ config.deny ≠ [])) (peer : Peer) :
    config.authorizer.admits peer = false ↔
      peer.name ∈ config.deny ∨ config.allow ≠ [] ∧ peer.name ∉ config.allow := by
  unfold authorizer
  by_cases hallow : config.allow = []
  · rw [if_neg (not_not_intro hallow)]
    by_cases hdeny : config.deny = []
    · rw [if_neg (not_not_intro hdeny)]
      simp [Authorizer.admits, hallow, hdeny]
    · rw [if_pos hdeny]
      simp [Authorizer.admits, hallow, Peer.mem_map_mk]
  · have hdeny : config.deny = [] := by
      by_contra hdeny
      exact h ⟨hallow, hdeny⟩
    rw [if_pos hallow]
    simp [Authorizer.admits, hallow, hdeny, Peer.mem_map_mk]

end NodeConfig

/-! ## Replies -/

namespace Service

open Wire

/-- The reply to a refused request is the same whatever is in the service. -/
theorem exists_refuse_eq (identifier : UInt64) (encoding : Encoding) :
    ∃ reply, Form.response.encode
        (.failure ⟨identifier, .unauthorized, "peer is not authorized"⟩) encoding = .ok reply ∧
      ∀ s : Service, s.refuse identifier .unauthorized "peer is not authorized" encoding =
        (reply, s.count (·.requestFailed .unauthorized)) := by
  have hshort : "peer is not authorized".utf8ByteSize ≤ 500 := by decide
  obtain ⟨reply, hencode, _⟩ :=
    encode_of_not_tooLarge (not_tooLarge_failure identifier .unauthorized fun _ => hshort)
  refine ⟨reply, hencode, fun s => ?_⟩
  rw [refuse, encodeResponse, hencode]

/-- Under a configuration that was loaded, a peer is refused if it is to be shut out by name, or if
others are to be let in by name and it is not.  A refused peer gets a failure with the identifier of
its request, and with 0 if there is no request in the bytes; the reply is the same from any two
services, and a service only counts that it refused a request.  Any other peer is answered as if
nobody had asked who it is. -/
theorem handle_loaded {config : NodeConfig} (h : config.Loaded) (peer : Peer) :
    let refused := peer.name ∈ config.deny ∨ config.allow ≠ [] ∧ peer.name ∉ config.allow
    (config.authorizer.admits peer = false ↔ refused) ∧
    (refused → ∀ encoding bs, ∃ identifier reply,
      (∀ r, Form.request.decode encoding bs = .ok r → identifier = r.identifier) ∧
      (∀ error, Form.request.decode encoding bs = .error error → identifier = 0) ∧
      Form.response.encode (.failure ⟨identifier, .unauthorized, "peer is not authorized"⟩)
        encoding = .ok reply ∧
      ∀ s : Service, s.handle config.authorizer peer encoding bs = (reply, { s with
        metrics := s.metrics.map fun m => { m with
          requestsFailed := m.requestsFailed + 1
          unauthorized := m.unauthorized + 1 } })) ∧
    (¬ refused → ∀ (s : Service) encoding bs,
      s.handle config.authorizer peer encoding bs = s.handleMessage encoding bs) := by
  intro refused
  have hadmits := NodeConfig.admits_authorizer_eq_false h.not_conflicting peer
  refine ⟨hadmits, fun hrefused encoding bs => ?_, fun hrefused s encoding bs => ?_⟩
  · obtain ⟨reply, hencode, hreply⟩ := exists_refuse_eq (identifierOf encoding bs) encoding
    refine ⟨identifierOf encoding bs, reply, ?_, ?_, hencode, fun s => ?_⟩
    · intro r hdecode
      rw [identifierOf, hdecode]
    · intro error hdecode
      rw [identifierOf, hdecode]
    · rw [handle, if_neg (by rw [hadmits.mpr hrefused]; exact Bool.false_ne_true)]
      exact hreply s
  · have hadmitted : config.authorizer.admits peer = true :=
      Bool.eq_true_of_not_eq_false fun hfalse => hrefused (hadmits.mp hfalse)
    rw [handle, if_pos hadmitted]

/-- A peer that a file shuts out asks a service that holds a packet and one that never ran. -/
theorem handle_loaded_mallory :
    let text := "[security]\ndeny = [\"mallory\"]"
    let environment : Environment := fun name =>
      if name = NodeConfig.channelsVariable then some " 2 " else none
    let base : NodeConfig := { NodeConfig.standard with deny := ["mallory"] }
    let config : NodeConfig := { base with cache := { base.cache with maxChannels := 2 } }
    let s : Service := ⟨config.cache, .empty 2 1, .running, some .zero⟩
    let t : Service := ⟨config.cache, .empty 2 1, .stopped, none⟩
    let u : Service := (s.ingest (.pulse ⟨"IU", "ANMO", "BHZ", "00"⟩ 5 ⟨0⟩ rfl)).2
    let bs : List UInt8 := Form.request.toBinary (.channelList ⟨4⟩)
    NodeConfig.parse text = .ok base ∧ base.override environment = .ok config ∧
      config.authorizer.admits ⟨"mallory"⟩ = false ∧ config.authorizer.admits ⟨"picker"⟩ = true ∧
      u.store.size = 1 ∧
      (u.handle config.authorizer ⟨"mallory"⟩ .binary bs).1 =
        (t.handle config.authorizer ⟨"mallory"⟩ .binary bs).1 ∧
      (u.handle config.authorizer ⟨"mallory"⟩ .binary bs).2.store = u.store := by
  intro text environment base config s t u bs
  have hparse : NodeConfig.parse text = .ok base := by decide +kernel
  have hoverride : base.override environment = .ok config := by decide +kernel
  have hloaded : config.Loaded := .override (.parse hparse) hoverride
  obtain ⟨hadmits, hrefused, _⟩ := handle_loaded hloaded ⟨"mallory"⟩
  have hmallory : "mallory" ∈ config.deny ∨ config.allow ≠ [] ∧ "mallory" ∉ config.allow :=
    .inl (List.mem_singleton.mpr rfl)
  obtain ⟨_, reply, _, _, _, hreply⟩ := hrefused hmallory .binary bs
  refine ⟨hparse, hoverride, hadmits.mpr hmallory, by decide +kernel, by decide +kernel, ?_, ?_⟩
  · rw [hreply u, hreply t]
  · rw [hreply u]

end Service

end WaveCache
