import Beignet.Swaps.Create
import Beignet.Swaps.Recomputed

namespace Beignet.Swaps

open Beignet.Data Beignet.Storage

variable {json : Json} {scanRows : Bool}

section Providers

/-- Two engines on one ledger. The work queue of each runs one create at a time, which may be
    waiting for its fee estimate. -/
structure Providers (json : Json) (scanRows : Bool) where
  swaps : SwapLedger json scanRows
  reverse : Option ReversePending
  submarine : Option SubmarinePending

structure ProviderSetup where
  host : SwapHost
  reverse : ReverseConfig
  submarine : SubmarineConfig

inductive ProviderInput
  | reverseCreate (view : NodeView) (peer : String) (req : ReverseCreate)
  | reverseFee (given : ReverseResume)
  | submarineCreate (view : NodeView) (peer : String) (req : SubmarineCreate)
  | submarineFee (given : SubmarineResume)
  | work (call : SwapCall) (throws : Bool)
  | restart

variable (world : Providers json scanRows)

def Providers.work (call : SwapCall) (throws : Bool) : Providers json scanRows :=
  if call.inserts then world else { world with swaps := world.swaps.step (call, throws) }

def ProviderSetup.step (setup : ProviderSetup) (world : Providers json scanRows) :
    ProviderInput → Providers json scanRows
  | .reverseCreate view peer req =>
    -- A create behind another one stays in the queue.
    if world.reverse.isSome then world
    else { world with reverse := (setup.reverse.beginCreate setup.host world.swaps view peer req).getRight? }
  | .reverseFee given =>
    match world.reverse with
    | none => world
    | some pending =>
      { world with swaps := (pending.resume setup.reverse setup.host world.swaps given).2, reverse := none }
  | .submarineCreate view peer req =>
    if world.submarine.isSome then world
    else { world with submarine := (setup.submarine.beginCreate setup.host world.swaps view peer req).getRight? }
  | .submarineFee given =>
    match world.submarine with
    | none => world
    | some pending =>
      { world with swaps := (pending.resume setup.submarine setup.host world.swaps given).2, submarine := none }
  | .work call throws => world.work call throws
  | .restart => { swaps := world.swaps.step (.rehydrate, false), reverse := none, submarine := none }

def Providers.start (json : Json) (scanRows : Bool) : Providers json scanRows where
  swaps := (SwapLedger.fresh .empty).rehydrate
  reverse := none
  submarine := none

def Providers.OneLive : Prop :=
  ∀ a ∈ world.swaps.list, ∀ b ∈ world.swaps.list, isTerminalSwapState a.state = false →
    isTerminalSwapState b.state = false → a.paymentHashHex = b.paymentHashHex → a.id = b.id

instance (world : Providers json scanRows) : Decidable world.OneLive :=
  inferInstanceAs (Decidable (∀ a ∈ world.swaps.list, ∀ b ∈ world.swaps.list, isTerminalSwapState a.state = false →
    isTerminalSwapState b.state = false → a.paymentHashHex = b.paymentHashHex → a.id = b.id))

/-- A create is not taken up while the other engine's create of the same hash, by another peer,
    awaits its fee estimate. -/
def Providers.Apart : ProviderInput → Prop
  | .reverseCreate _ peer req =>
    ∀ other ∈ world.submarine, other.req.paymentHash = req.paymentHash → other.peer = peer
  | .submarineCreate _ peer req =>
    ∀ other ∈ world.reverse, other.req.paymentHash = req.paymentHash → other.peer = peer
  | _ => True

end Providers

section Ledger

variable {swaps next : SwapLedger json scanRows} {id hash : String}

structure SwapLedger.Serving (swaps : SwapLedger json scanRows) : Prop where
  running : swaps.ledger.rehydrated = true
  tracks : swaps.indexes.Tracks swaps.ledger.records
  backed : swaps.Backed

theorem SwapLedger.Effect.running {wellFormed inserts : Prop} (effect : swaps.Effect wellFormed inserts next)
    (running : swaps.ledger.rehydrated = true) : next.ledger.rehydrated = true := by
  cases effect with
  | unchanged => exact running
  | opened => exact running
  | rewritten => exact running
  | removed => exact running
  | reloaded => rfl

theorem SwapLedger.Serving.step (roundTrips : json.RoundTrips) (serving : swaps.Serving) (call : SwapCall × Bool) :
    (swaps.step call).Serving := by
  have effect : swaps.Effect _ _ (swaps.step call) := effect_step call
  exact ⟨effect.running serving.running, effect.tracks serving.tracks, effect.backed roundTrips serving.backed⟩

def SwapLedger.Keeps (swaps next : SwapLedger json scanRows) : Prop :=
  ∀ id row, next.get id = some row → ∃ old, swaps.get id = some old ∧ old.paymentHashHex = row.paymentHashHex

def SwapLedger.Opens (id hash : String) (swaps next : SwapLedger json scanRows) : Prop :=
  ∀ other row, next.get other = some row →
    (∃ old, swaps.get other = some old ∧ old.paymentHashHex = row.paymentHashHex) ∨
      (swaps.get id = none ∧ other = id ∧ row.paymentHashHex = hash)

theorem SwapLedger.Effect.present {wellFormed : Prop} (effect : swaps.Effect wellFormed False next)
    (serving : swaps.Serving) {id : String} {row : SwapRecord} (here : next.get id = some row) :
    ∃ old, swaps.get id = some old := by
  cases effect with
  | unchanged => exact ⟨row, here⟩
  | opened _ _ inserting => exact inserting.elim
  | rewritten before after table running found rewrites written readable =>
    replace here : (swaps.ledger.records.set after).get? id = some row := here
    rw [KeyedMap.get?_set] at here
    split at here
    · rename_i same
      have named : id = before.id := same.trans rewrites.id
      exact ⟨before, named ▸ found⟩
    · exact ⟨row, here⟩
  | removed rows table distinct found written =>
    replace here : ((rows.map (·.id)).foldl KeyedMap.delete swaps.ledger.records).get? id = some row := here
    rw [get?_foldl_delete] at here
    split at here
    · cases here
    · exact ⟨row, here⟩
  | reloaded =>
    replace here : swaps.ledger.rehydrate.records.get? id = some row := here
    rw [swaps.ledger.get?_rehydrate serving.backed.laid, serving.backed.stored serving.running] at here
    obtain ⟨old, found, -⟩ := Option.bind_eq_some_iff.mp here
    exact ⟨old, found⟩

theorem SwapLedger.Serving.keeps (serving : swaps.Serving) {call : SwapCall × Bool} (other : call.1.inserts = false) :
    swaps.Keeps (swaps.step call) := by
  have effect : swaps.Effect (SwapCall.wellFormed swaps call = true) False (swaps.step call) := by
    have any : swaps.Effect _ (call.1.inserts = true) (swaps.step call) := effect_step call
    rwa [show (call.1.inserts = true) = False by simp [other]] at any
  intro id row here
  obtain ⟨old, found⟩ := effect.present serving here
  exact ⟨old, found, ((effect.follows serving.backed) id old row found here).2.1.symm⟩

theorem SwapLedger.Keeps.opens_trans {middle : SwapLedger json scanRows}
    (opens : swaps.Opens id hash middle) (keeps : middle.Keeps next) : swaps.Opens id hash next := by
  intro other row here
  obtain ⟨between, found, same⟩ := keeps other row here
  rcases opens other between found with ⟨old, before, first⟩ | ⟨absent, named, hashed⟩
  · exact .inl ⟨old, before, first.trans same⟩
  · exact .inr ⟨absent, named, same ▸ hashed⟩

theorem SwapLedger.opens_insert (row : SwapRecord) (now : Int) (throws : Bool) :
    swaps.Opens row.id row.paymentHashHex (swaps.step (.insert row now, throws)) := by
  intro other found here
  rcases swaps.ledger.insert_cases (row.opened now) throws with left | ⟨running, absent, table, stored, wrote⟩
  · have same : (swaps.step (.insert row now, throws)) = swaps := tracked_left left
    rw [same] at here
    exact .inl ⟨found, here, rfl⟩
  · have result : (swaps.step (.insert row now, throws)).get other =
        (swaps.ledger.records.set (row.opened now)).get? other := by
      show (swaps.tracked row.id none (swaps.ledger.insert (row.opened now) throws)).2.2.get other = _
      rw [wrote]
      rfl
    rw [result, KeyedMap.get?_set] at here
    split at here
    · rename_i same
      cases here
      exact .inr ⟨absent, same, rfl⟩
    · exact .inl ⟨found, here, rfl⟩

structure SwapLedger.Reached (id hash : String) (swaps next : SwapLedger json scanRows) : Prop where
  serving : swaps.Serving → next.Serving
  opens : swaps.Serving → swaps.Opens id hash next

theorem SwapLedger.Reached.same : swaps.Reached id hash swaps where
  serving serving := serving
  opens _ _ row here := .inl ⟨row, here, rfl⟩

theorem SwapLedger.Reached.inserted (roundTrips : json.RoundTrips) (row : SwapRecord) (now : Int) (throws : Bool) :
    swaps.Reached row.id row.paymentHashHex (swaps.insert row now throws).2.2 where
  serving serving := serving.step roundTrips (.insert row now, throws)
  opens _ := opens_insert row now throws

theorem SwapLedger.Reached.andThen (roundTrips : json.RoundTrips) (reached : swaps.Reached id hash next)
    (call : SwapCall × Bool) (other : call.1.inserts = false) : swaps.Reached id hash (next.step call) where
  serving serving := (reached.serving serving).step roundTrips call
  opens serving := ((reached.serving serving).keeps other).opens_trans (reached.opens serving)

end Ledger

section Handlers

variable {swaps : SwapLedger json scanRows} {host : SwapHost} {view : NodeView} {peer : String}

theorem ReversePending.reached (roundTrips : json.RoundTrips) (pending : ReversePending) (config : ReverseConfig)
    (host : SwapHost) (given : ReverseResume) :
    swaps.Reached (host.deriveSwapId pending.peer pending.req.paymentHash) pending.req.paymentHash
      (pending.resume config host swaps given).2 := by
  unfold ReversePending.resume
  dsimp only
  split
  · exact .same
  rename_i fee quoted
  split
  · exact .same
  split
  · exact .same
  split
  · exact .same
  rename_i contract built
  have inserted : swaps.Reached _ _ _ :=
    .inserted roundTrips (pending.row host config fee contract given.now) given.now given.insertThrows
  split
  · rename_i result opened same
    rw [same] at inserted
    split
    · exact inserted.andThen roundTrips (.move _ .failed (recordFailure _) given.now, given.failThrows) rfl
    rename_i bolt11 expiresAt made
    have patched := inserted.andThen roundTrips
      (.patch (host.deriveSwapId pending.peer pending.req.paymentHash) (recordInvoice bolt11 expiresAt) given.now,
        given.patchThrows) rfl
    split
    · rename_i record noted equal
      rw [show (SwapLedger.step _ (SwapCall.patch _ _ _, _)) = noted from congrArg (·.2.2) equal] at patched
      exact patched
    · rename_i outcome record noted _ equal
      rw [show (SwapLedger.step _ (SwapCall.patch _ _ _, _)) = noted from congrArg (·.2.2) equal] at patched
      exact patched.andThen roundTrips (.move _ .failed (recordFailure _) given.now, given.failThrows) rfl
  · rename_i outcome record refused _ same
    rw [same] at inserted
    exact inserted

theorem SubmarinePending.reached (roundTrips : json.RoundTrips) (pending : SubmarinePending) (config : SubmarineConfig)
    (host : SwapHost) (given : SubmarineResume) :
    swaps.Reached (host.deriveSwapId pending.peer pending.req.paymentHash) pending.req.paymentHash
      (pending.resume config host swaps given).2 := by
  unfold SubmarinePending.resume
  dsimp only
  split
  · exact .same
  rename_i fee quoted
  split
  · exact .same
  split
  · exact .same
  split
  · exact .same
  split
  · exact .same
  split
  · exact .same
  split
  · exact .same
  rename_i contract built
  split
  · exact .same
  have inserted : swaps.Reached _ _ _ :=
    .inserted roundTrips (pending.row host config fee contract given.now) given.now given.insertThrows
  split
  · rename_i record opened same
    rw [same] at inserted
    exact inserted
  · rename_i outcome record refused _ same
    rw [same] at inserted
    exact inserted

theorem ReverseConfig.beginCreate_spec {config : ReverseConfig} {req : ReverseCreate} {pending : ReversePending}
    (begun : (config.beginCreate host swaps view peer req).getRight? = some pending) :
    pending.peer = peer ∧ pending.req = req ∧ swaps.byPaymentHash req.paymentHash = [] := by
  unfold ReverseConfig.beginCreate at begun
  repeat' split at begun
  all_goals try cases begun
  exact ⟨rfl, rfl, by simp_all⟩

theorem SubmarineConfig.beginCreate_spec {config : SubmarineConfig}
    {req : SubmarineCreate} {pending : SubmarinePending}
    (begun : (config.beginCreate host swaps view peer req).getRight? = some pending) :
    pending.peer = peer ∧ pending.req = req ∧ swaps.byPaymentHash req.paymentHash = [] := by
  unfold SubmarineConfig.beginCreate at begun
  repeat' split at begun
  all_goals try cases begun
  dsimp only at begun
  split at begun
  · cases begun
  · cases begun
    exact ⟨rfl, rfl, by simp_all⟩

end Handlers

section Single

variable {swaps next : SwapLedger json scanRows}

def SwapLedger.Reserves (id hash : String) (swaps : SwapLedger json scanRows) : Prop :=
  ∀ other row, swaps.get other = some row → row.paymentHashHex = hash → other = id

def SwapLedger.Unique (swaps : SwapLedger json scanRows) : Prop :=
  ∀ id row, swaps.get id = some row → swaps.Reserves id row.paymentHashHex

theorem SwapLedger.Unique.opens {id hash : String} (unique : swaps.Unique) (reserves : swaps.Reserves id hash)
    (opens : swaps.Opens id hash next) : next.Unique := by
  intro first a here second b there same
  rcases opens first a here with ⟨oldA, foundA, hashA⟩ | ⟨absent, namedA, hashA⟩
  · rcases opens second b there with ⟨oldB, foundB, hashB⟩ | ⟨absent, namedB, hashB⟩
    · exact unique first oldA foundA second oldB foundB (hashB.trans (same.trans hashA.symm))
    · have taken := reserves first oldA foundA (hashA.trans (same.symm.trans hashB))
      rw [← taken, foundA] at absent
      cases absent
  · rcases opens second b there with ⟨oldB, foundB, hashB⟩ | ⟨_, namedB, hashB⟩
    · have taken := reserves second oldB foundB (hashB.trans (same.trans hashA))
      rw [← taken, foundB] at absent
      cases absent
    · exact namedB.trans namedA.symm

theorem SwapLedger.Reserves.opens {id hash mine wanted : String} (reserves : swaps.Reserves mine wanted)
    (opens : swaps.Opens id hash next) (same : hash = wanted → id = mine) : next.Reserves mine wanted := by
  intro other row here hashed
  rcases opens other row here with ⟨old, found, kept⟩ | ⟨-, named, new⟩
  · exact reserves other old found (kept.trans hashed)
  · exact named.trans (same (new.symm.trans hashed))

theorem SwapLedger.Keeps.unique (keeps : swaps.Keeps next) (unique : swaps.Unique) : next.Unique := by
  intro first a here second b there same
  obtain ⟨oldA, foundA, hashA⟩ := keeps first a here
  obtain ⟨oldB, foundB, hashB⟩ := keeps second b there
  exact unique first oldA foundA second oldB foundB (hashB.trans (same.trans hashA.symm))

theorem SwapLedger.Keeps.reserves {mine wanted : String} (keeps : swaps.Keeps next)
    (reserves : swaps.Reserves mine wanted) : next.Reserves mine wanted := by
  intro other row here hashed
  obtain ⟨old, found, kept⟩ := keeps other row here
  exact reserves other old found (kept.trans hashed)

theorem SwapLedger.Serving.reserves_of_unused (serving : swaps.Serving) {hash : String}
    (unused : swaps.byPaymentHash hash = []) (mine : String) : swaps.Reserves mine hash := by
  intro other row found hashed
  have listed : swaps.byPaymentHash hash = swaps.list.filter fun row => row.paymentHashHex = hash :=
    serving.tracks.byHash.rowsUnder_eq hash
  have member : row ∈ swaps.byPaymentHash hash := by
    rw [listed, List.mem_filter]
    exact ⟨((swaps.ledger.records.get?_eq_some other row).mp found).1, by simpa using hashed⟩
  rw [unused] at member
  cases member

def ProviderSetup.idOf (setup : ProviderSetup) (peer hash : String) : String := setup.host.deriveSwapId peer hash

structure Providers.Single (setup : ProviderSetup) (world : Providers json scanRows) : Prop where
  serving : world.swaps.Serving
  unique : world.swaps.Unique
  reverse : ∀ pending ∈ world.reverse,
    world.swaps.Reserves (setup.idOf pending.peer pending.req.paymentHash) pending.req.paymentHash
  submarine : ∀ pending ∈ world.submarine,
    world.swaps.Reserves (setup.idOf pending.peer pending.req.paymentHash) pending.req.paymentHash
  samePeer : ∀ left ∈ world.reverse, ∀ right ∈ world.submarine,
    left.req.paymentHash = right.req.paymentHash → left.peer = right.peer

variable {setup : ProviderSetup} {world : Providers json scanRows}

theorem forall_mem_none {α : Type} {P : α → Prop} : ∀ a ∈ (none : Option α), P a := by
  intro a member
  cases member

theorem Providers.Single.step (roundTrips : json.RoundTrips) (single : world.Single setup) (input : ProviderInput)
    (apart : world.Apart input) : (setup.step world input).Single setup := by
  cases input with
  | reverseCreate view peer req =>
    unfold ProviderSetup.step
    dsimp only
    split
    · exact single
    · refine ⟨single.serving, single.unique, ?_, single.submarine, ?_⟩
      · intro pending begun
        obtain ⟨-, rfl, unused⟩ := ReverseConfig.beginCreate_spec begun
        exact single.serving.reserves_of_unused unused _
      · intro left begun right waiting same
        obtain ⟨rfl, rfl, -⟩ := ReverseConfig.beginCreate_spec begun
        exact (apart right waiting same.symm).symm
  | submarineCreate view peer req =>
    unfold ProviderSetup.step
    dsimp only
    split
    · exact single
    · refine ⟨single.serving, single.unique, single.reverse, ?_, ?_⟩
      · intro pending begun
        obtain ⟨-, rfl, unused⟩ := SubmarineConfig.beginCreate_spec begun
        exact single.serving.reserves_of_unused unused _
      · intro left waiting right begun same
        obtain ⟨rfl, rfl, -⟩ := SubmarineConfig.beginCreate_spec begun
        exact apart left waiting same
  | reverseFee given =>
    unfold ProviderSetup.step
    dsimp only
    split
    · exact single
    · rename_i pending waiting
      have reached : world.swaps.Reached _ _ (pending.resume setup.reverse setup.host world.swaps given).2 :=
        pending.reached roundTrips setup.reverse setup.host given
      have opens := reached.opens single.serving
      refine ⟨reached.serving single.serving, single.unique.opens (single.reverse pending waiting) opens,
        forall_mem_none, ?_, forall_mem_none⟩
      intro other there
      refine (single.submarine other there).opens opens ?_
      intro same
      rw [ProviderSetup.idOf, single.samePeer pending waiting other there same, same]
  | submarineFee given =>
    unfold ProviderSetup.step
    dsimp only
    split
    · exact single
    · rename_i pending waiting
      have reached : world.swaps.Reached _ _ (pending.resume setup.submarine setup.host world.swaps given).2 :=
        pending.reached roundTrips setup.submarine setup.host given
      have opens := reached.opens single.serving
      refine ⟨reached.serving single.serving, single.unique.opens (single.submarine pending waiting) opens, ?_,
        forall_mem_none, fun _ _ => forall_mem_none⟩
      intro other there
      refine (single.reverse other there).opens opens ?_
      intro same
      rw [ProviderSetup.idOf, ← single.samePeer other there pending waiting same.symm, same]
  | work call throws =>
    unfold ProviderSetup.step Providers.work
    dsimp only
    split
    · exact single
    · rename_i other
      have keeps : world.swaps.Keeps (world.swaps.step (call, throws)) := single.serving.keeps (by simpa using other)
      exact ⟨single.serving.step roundTrips _, keeps.unique single.unique,
        fun pending waiting => keeps.reserves (single.reverse pending waiting),
        fun pending waiting => keeps.reserves (single.submarine pending waiting), single.samePeer⟩
  | restart =>
    have keeps : world.swaps.Keeps (world.swaps.step (.rehydrate, false)) := single.serving.keeps rfl
    exact ⟨single.serving.step roundTrips (.rehydrate, false), keeps.unique single.unique, forall_mem_none,
      forall_mem_none, forall_mem_none⟩

theorem Providers.Single.start (roundTrips : json.RoundTrips) : (Providers.start json scanRows).Single setup := by
  have backed := SwapLedger.backed_run roundTrips (laid_empty json scanRows) [(.rehydrate, false)]
  have tracks := SwapLedger.tracks_run json scanRows .empty [(.rehydrate, false)]
  refine ⟨⟨rfl, tracks, backed⟩, ?_, forall_mem_none, forall_mem_none, forall_mem_none⟩
  intro id row found
  replace found : (SwapLedger.fresh .empty : SwapLedger json scanRows).ledger.rehydrate.records.get? id = some row := found
  rw [DurableLedger.get?_rehydrate _ (laid_empty json scanRows)] at found
  exact absurd (found.symm.trans (stored_empty json scanRows id)) (by simp)

theorem Providers.Single.oneLive (single : world.Single setup) : world.OneLive := by
  intro a memberA b memberB _ _ same
  have foundA := (world.swaps.ledger.records.get?_eq_some a.id a).mpr ⟨memberA, rfl⟩
  have foundB := (world.swaps.ledger.records.get?_eq_some b.id b).mpr ⟨memberB, rfl⟩
  exact single.unique b.id b foundB a.id a foundA same

/-- In a run in which no create is taken up while the other engine's create of the same hash
    awaits its fee estimate, there is one live swap per hash throughout. -/
theorem Providers.oneLive_of_apart (roundTrips : json.RoundTrips) (setup : ProviderSetup) (inputs : List ProviderInput)
    (apart : Along setup.step Providers.Apart (Providers.start json scanRows) inputs) :
    (inputs.foldl setup.step (Providers.start json scanRows)).OneLive := by
  have single : (inputs.foldl setup.step (Providers.start json scanRows)).Single setup :=
    apart.invariant (fun _ input ok single => single.step roundTrips input ok) (.start roundTrips)
  exact single.oneLive

end Single

section Race

theorem ProviderSetup.reverse_answered (setup : ProviderSetup) (world : Providers json scanRows) (given : ReverseResume) :
    (setup.step world (.reverseFee given)).reverse = none := by
  unfold ProviderSetup.step
  dsimp only
  split
  · assumption
  · rfl

def sampleProviderConfig : ProviderConfig where
  flatFeeSat := 100
  feePpm := 0
  exposure := ⟨10000, 1000000, 5000000, 8, 200⟩
  refundDeltaBlocks := 144
  minRefundDeltaBlocks := 72
  maxRefundDeltaBlocks := 288
  fundingConfirmations := 1
  resolutionConfirmations := 3
  resolutionSafetyBlocks := 12
  maxFeeRateSatPerVbyte := 200
  vbytesEstimate := 100
  maxCreatedPerPeer := 4
  maxUnpaidSwaps := 64

def sampleInvoice : ClientInvoice where
  network := .regtest
  paymentHash := hex64 '7'
  amountMsat := some 49000000
  hasPaymentSecret := true
  timestamp := 1000
  expiry := none
  payeeNodeKey := some "02cc"
  recoveredPubkey := none
  hopPubkeys := []
  introductionNodeIds := []
  minFinalCltvExpiry := some 18

def sampleSetup : ProviderSetup where
  host :=
    { networkName := .regtest
      ownNodeId := "02ff"
      deriveSwapId := fun peer hash => peer ++ hash
      refundPubkey := fun id => "03" ++ id
      claimPubkey := fun id => "02" ++ id
      buildSwapHtlc := fun _ => .ok ("0020", "bcrt1q")
      decodeInvoice := fun _ => .ok sampleInvoice }
  reverse := { sampleProviderConfig with answerSubmarineRequests := false }
  submarine :=
    { sampleProviderConfig with
      claimSafetyBlocks := 12
      routeCltvBudgetBlocks := 40
      minInvoiceExpirySeconds := 600
      paymentMaxFeePpm := 0 }

def sampleView : NodeView where
  stopped := false
  currentHeight := 800
  now := 1000000
  heldSnapshot := false
  hashInUse := false
  destinationProblem := none
  spendableOutboundMsat := 100000000
  hasUsableChannelWith := fun _ => false

def sampleReverseCreate : ReverseCreate := ⟨.reverse, hex64 '7', "02dd", 50000, 1000, none⟩

def sampleSubmarineCreate : SubmarineCreate := ⟨.submarine, hex64 '7', "02ee", "lnbcrt490u", 50000, 1000, none⟩

def sampleReverseFee : ProviderInput := .reverseFee ⟨some 2, 1000000, false, false, false, .ok ("lnbcrt503u", 4600)⟩

def sampleSubmarineFee : ProviderInput := .submarineFee ⟨some 2, 1000000, 100000000, false⟩

theorem two_live_swaps_of_one_hash :
    ¬([.reverseCreate sampleView "02aa" sampleReverseCreate, .submarineCreate sampleView "02bb" sampleSubmarineCreate,
        sampleReverseFee, sampleSubmarineFee].foldl sampleSetup.step (Providers.start plainJson false)).OneLive := by
  decide +kernel

theorem oneLive_of_apart_in_turn :
    let inputs := [.reverseCreate sampleView "02aa" sampleReverseCreate, sampleReverseFee,
      .submarineCreate sampleView "02bb" sampleSubmarineCreate, sampleSubmarineFee]
    (inputs.foldl sampleSetup.step (Providers.start plainJson false)).swaps.list.length = 1 ∧
      (inputs.foldl sampleSetup.step (Providers.start plainJson false)).OneLive := by
  refine ⟨by decide +kernel, Providers.oneLive_of_apart plainJson_roundTrips sampleSetup _ ?_⟩
  refine ⟨forall_mem_none, trivial, ?_, trivial, trivial⟩
  intro other waiting
  rw [sampleReverseFee, ProviderSetup.reverse_answered] at waiting
  cases waiting

end Race

end Beignet.Swaps
