import TlsIdentity.Proofs.CustomizersInTurn

/-!
# Customizers of two roles

A chain of customizers that are made of mutations runs on clients and on servers alike. On either side it comes
to all its mutations in one row, whichever customizer they stand in (`applyClient_ofMutations`). Of these the ones
for the other side do nothing, so they can be taken out without a trace. Those for both sides keep the sides in
step (`InStep`), one after the other. A mutation that reads what another one wrote, such as a fragment size made
from the number of protocols, is no exception: what it reads has been the same on both sides before.
-/

namespace TlsIdentity

/-- A step that changes nothing need not be made. -/
theorem foldl_filter_of_idle {σ κ : Type} {step : σ → κ → σ} {kept : κ → Bool}
    (hidle : ∀ state call, kept call = false → step state call = state) (calls : List κ) (state : σ) :
    (calls.filter kept).foldl step state = calls.foldl step state := by
  induction calls generalizing state with
  | nil => rfl
  | cons call rest ih =>
    cases hkept : kept call with
    | true =>
      rw [List.filter_cons_of_pos hkept]
      exact ih (step state call)
    | false =>
      rw [List.filter_cons_of_neg (by rw [hkept]; nofun), List.foldl_cons, hidle state call hkept]
      exact ih state

/-! ## Chains of mutations -/

/-- The customizers that perform lists of mutations, one each. -/
def CustomizerChain.ofMutations (customizers : List (List Mutation)) : CustomizerChain :=
  customizers.map .ofMutations

/-- Each customizer with those of its mutations only that are to be kept. -/
def keepingMutations (kept : Mutation → Bool) (customizers : List (List Mutation)) : List (List Mutation) :=
  customizers.map (·.filter kept)

namespace CustomizerChain

variable {customizers : List (List Mutation)}

/-- **A chain performs its mutations in a row**, whichever customizers they are in. -/
theorem applyClient_ofMutations (customizers : List (List Mutation)) (settings : ClientSettings) :
    (ofMutations customizers).applyClient settings =
      customizers.flatten.foldl (fun settings mutation => mutation.applyClient settings) settings := by
  rw [applyClient, ofMutations, List.foldl_map, List.foldl_flatten]
  rfl

theorem applyServer_ofMutations (customizers : List (List Mutation)) (settings : ServerSettings) :
    (ofMutations customizers).applyServer settings =
      customizers.flatten.foldl (fun settings mutation => mutation.applyServer settings) settings := by
  rw [applyServer, ofMutations, List.foldl_map, List.foldl_flatten]
  rfl

theorem flatten_keepingMutations (kept : Mutation → Bool) (customizers : List (List Mutation)) :
    (keepingMutations kept customizers).flatten = customizers.flatten.filter kept :=
  List.filter_flatten.symm

/-! ## What the other side's mutations do -/

/-- **A client does not see the mutations for servers.** -/
theorem applyClient_keeping (customizers : List (List Mutation)) (settings : ClientSettings) :
    (ofMutations (keepingMutations (!·.isServer) customizers)).applyClient settings =
      (ofMutations customizers).applyClient settings := by
  rw [applyClient_ofMutations, applyClient_ofMutations, flatten_keepingMutations]
  refine foldl_filter_of_idle (fun settings mutation hserver => ?_) _ settings
  cases mutation with
  | server mutation => rfl
  | shared mutation | client mutation => cases hserver

/-- **A server does not see the mutations for clients.** -/
theorem applyServer_keeping (customizers : List (List Mutation)) (settings : ServerSettings) :
    (ofMutations (keepingMutations (!·.isClient) customizers)).applyServer settings =
      (ofMutations customizers).applyServer settings := by
  rw [applyServer_ofMutations, applyServer_ofMutations, flatten_keepingMutations]
  refine foldl_filter_of_idle (fun settings mutation hclient => ?_) _ settings
  cases mutation with
  | client mutation => rfl
  | shared mutation | server mutation => cases hclient

end CustomizerChain

/-! ## What is done to both sides -/

/-- What shared steps keep: both sides agree on what they negotiate about, and each has the setting of its own
    that it began with. -/
structure InStep (client client' : ClientSettings) (server server' : ServerSettings) : Prop where
  agree : client'.toNegotiation = server'.toNegotiation
  indicatesName : client'.indicatesName = client.indicatesName
  ignoresClientOrder : server'.ignoresClientOrder = server.ignoresClientOrder

/-- **A shared mutation reads and writes the same on both sides**, so it keeps sides in step that were. -/
theorem SharedMutation.inStep_apply (mutation : SharedMutation) {client client' : ClientSettings}
    {server server' : ServerSettings} (h : InStep client client' server server') :
    InStep client (mutation.apply .client client') server (mutation.apply .server server') := by
  obtain ⟨⟨protocols, fragment⟩, indicates⟩ := client'
  obtain ⟨⟨_, _⟩, ignores⟩ := server'
  obtain ⟨hagree, hindicates, hignores⟩ := h
  cases hagree
  cases mutation <;> exact ⟨rfl, hindicates, hignores⟩

/-- A run of shared mutations keeps both sides in step. -/
theorem inStep_foldl {mutations : List Mutation} (hshared : ∀ mutation ∈ mutations, mutation.isShared = true)
    {client client' : ClientSettings} {server server' : ServerSettings}
    (h : InStep client client' server server') :
    InStep client (mutations.foldl (fun settings mutation => mutation.applyClient settings) client')
      server (mutations.foldl (fun settings mutation => mutation.applyServer settings) server') := by
  induction mutations generalizing client' server' with
  | nil => exact h
  | cons mutation rest ih =>
    obtain ⟨hfirst, hrest⟩ := List.forall_mem_cons.mp hshared
    cases mutation with
    | shared own => exact ih hrest (own.inStep_apply h)
    | client own | server own => cases hfirst

/-! ## Configurations -/

namespace Profile

variable {first other : CustomizerChain}

/-- A chain shows in a client's configuration only by what it makes of a client's settings. -/
theorem clientConfig_congr (h : first.applyClient {} = other.applyClient {}) (profile : Profile)
    (host : String) :
    (profile.withCustomizers first).clientConfig host = (profile.withCustomizers other).clientConfig host := by
  unfold clientConfig withCustomizers
  simp only [h]
  rfl

theorem serverConfig_congr (h : first.applyServer {} = other.applyServer {}) (profile : Profile)
    (engine : Engine) (auth : ClientAuth) :
    (profile.withCustomizers first).serverConfig engine auth =
      (profile.withCustomizers other).serverConfig engine auth := by
  unfold serverConfig withCustomizers
  simp only [h]
  rfl

end Profile

/-- **The roles of customizers are kept apart.** For all customizers that are made of mutations, any number of them
    and any mutations in any order:

    * without the mutations for servers the chain does the same to every client's settings, and without those for
      clients the same to every server's;
    * so every profile with the one chain makes the same configurations for a client as with the other, and for a
      server likewise, with the same reports and errors;
    * if all mutations are for both sides, a client and a server that agree on protocols and fragment size before
      the chain has run agree on them afterwards, and each keeps the setting of its own. -/
theorem roles_kept_apart (customizers : List (List Mutation)) :
    let chain := CustomizerChain.ofMutations customizers
    let noServer := CustomizerChain.ofMutations (keepingMutations (!·.isServer) customizers)
    let noClient := CustomizerChain.ofMutations (keepingMutations (!·.isClient) customizers)
    (∀ settings, noServer.applyClient settings = chain.applyClient settings) ∧
    (∀ settings, noClient.applyServer settings = chain.applyServer settings) ∧
    (∀ (profile : Profile) (host : String),
      (profile.withCustomizers noServer).clientConfig host =
        (profile.withCustomizers chain).clientConfig host) ∧
    (∀ (profile : Profile) (engine : Engine) (auth : ClientAuth),
      (profile.withCustomizers noClient).serverConfig engine auth =
        (profile.withCustomizers chain).serverConfig engine auth) ∧
    ((∀ mutations ∈ customizers, ∀ mutation ∈ mutations, mutation.isShared = true) →
      ∀ (client : ClientSettings) (server : ServerSettings), client.toNegotiation = server.toNegotiation →
        (chain.applyClient client).toNegotiation = (chain.applyServer server).toNegotiation ∧
        (chain.applyClient client).indicatesName = client.indicatesName ∧
        (chain.applyServer server).ignoresClientOrder = server.ignoresClientOrder) := by
  intro chain noServer noClient
  have hclient := CustomizerChain.applyClient_keeping customizers
  have hserver := CustomizerChain.applyServer_keeping customizers
  refine ⟨hclient, hserver, ?_, ?_, ?_⟩
  · exact Profile.clientConfig_congr (hclient {})
  · exact Profile.serverConfig_congr (hserver {})
  · intro hshared client server hagree
    have hall : ∀ mutation ∈ customizers.flatten, mutation.isShared = true := by
      intro mutation hmem
      obtain ⟨mutations, hmutations, hmutation⟩ := List.mem_flatten.mp hmem
      exact hshared mutations hmutations mutation hmutation
    have hbefore : InStep client client server server := ⟨hagree, rfl, rfl⟩
    obtain ⟨hafter, hindicates, hignores⟩ := inStep_foldl hall hbefore
    rw [CustomizerChain.applyClient_ofMutations, CustomizerChain.applyServer_ofMutations]
    exact ⟨hafter, hindicates, hignores⟩

/-- Two customizers for both sides, the second of which makes the fragment size from the protocols that the first
    has left, keep a client and a server together that began with one protocol. With steps for one side between
    them the sides part, and each is where it would be without the steps for the other. -/
theorem neutral_customizers_keep_agreement :
    let neutral : List (List Mutation) :=
      [[.shared (.pushProtocol "h2"), .shared .repeatProtocols], [.shared (.setFragmentByProtocols 100)]]
    let mixed : List (List Mutation) :=
      [[.server (.pushProtocol "s"), .shared (.pushProtocol "h2"), .client (.setIndicatesName false)],
        [.client (.pushProtocol "c"), .shared .reverseProtocols, .shared (.setFragmentByProtocols 100),
          .server (.pushProtocol "t")]]
    let client : ClientSettings := { protocols := ["x"], indicatesName := false }
    let server : ServerSettings := { protocols := ["x"], ignoresClientOrder := true }
    let chain := CustomizerChain.ofMutations neutral
    client.toNegotiation = server.toNegotiation ∧
      (chain.applyClient client).toNegotiation = (chain.applyServer server).toNegotiation ∧
      (chain.applyServer server).toNegotiation = ⟨["x", "h2", "x", "h2"], some 104⟩ ∧
      (chain.applyClient client).indicatesName = false ∧ (chain.applyServer server).ignoresClientOrder = true ∧
      (CustomizerChain.ofMutations (keepingMutations (!·.isServer) mixed)).applyClient client =
        { protocols := ["c", "h2", "x"], maxFragment := some 103, indicatesName := false } ∧
      (CustomizerChain.ofMutations (keepingMutations (!·.isClient) mixed)).applyServer server =
        { protocols := ["h2", "s", "x", "t"], maxFragment := some 103, ignoresClientOrder := true } := by
  intro neutral mixed client server chain
  obtain ⟨_, _, _, _, hneutral⟩ := roles_kept_apart neutral
  obtain ⟨hagree, hindicates, hignores⟩ := hneutral (by decide) client server rfl
  obtain ⟨hclient, hserver, _⟩ := roles_kept_apart mixed
  exact ⟨rfl, hagree, rfl, hindicates, hignores, hclient client, hserver server⟩

end TlsIdentity
