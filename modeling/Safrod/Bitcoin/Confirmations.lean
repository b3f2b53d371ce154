import Safrod.Bitcoin.Watcher

/-!
# Confirmations never go back

A stored count is one that some scan found, so the block of the deposit and the tip of
the scan bound it (`Tracked`). A later scan finds the deposit in the same block under a
tip at least as high, and the mempool listing writes a count of zero only for a
transaction that was in the mempool when it was fetched, whose outputs no scan has seen
confirmed. So what a pass writes is never below what is stored, at whatever heights its
three snapshots were taken (`confirmations_monotone`).
-/

set_option autoImplicit false

namespace Safrod

open Table Db

/-! ## What is known of addresses and deposits -/

/-- The addresses that are watched. -/
structure AddressesSound (db : Db) : Prop where
  unique : KeyUnique (fun row : AddressRecord => row.address) db.onchainAddresses
  plain : ∀ row ∈ db.onchainAddresses, ')' ∉ row.address.toList

/-- A stored deposit: the output it is of pays its address, its status is the one of its
count, and its count is one that its block has under the tip. -/
structure Tracked (txs : Transactions) (chain : Chain) (db : Db) (row : OnchainTransactionRecord) :
    Prop where
  status : ∃ address ∈ db.onchainAddresses, ∃ n, asI32 n = row.vout ∧
    txs.Pays row.txid n address.address ∧
    row.status = .fromConfirmations row.confirmations.toNat
      (max address.requiredConfirmations 1).toNat
  nonneg : 0 ≤ row.confirmations
  mined : 0 < row.confirmations → ∃ height, chain.minedAt row.txid = some height ∧
    row.confirmations + height ≤ chain.height + 1

/-- What is observed of an output is true, and not behind what is stored. -/
structure Sees (txs : Transactions) (chain : Chain) (db : Db) (observation : Observation) :
    Prop where
  address : observation.address ∈ db.onchainAddresses
  pays : ∃ n, asI32 n = observation.vout ∧
    txs.Pays observation.txid n observation.address.address
  nonneg : 0 ≤ observation.confirmations
  mined : 0 < observation.confirmations → ∃ height,
    chain.minedAt observation.txid = some height ∧
      observation.confirmations + height ≤ chain.height + 1
  grows : ∀ row, db.findOutput observation.txid observation.vout = some row →
    row.confirmations ≤ observation.confirmations

/-- Nothing that is stored goes back. -/
def Grows (db after : Db) : Prop :=
  ∀ txid vout row, db.findOutput txid vout = some row →
    ∃ row', after.findOutput txid vout = some row' ∧ row.confirmations ≤ row'.confirmations ∧
      row.status.rank ≤ row'.status.rank

theorem Grows.refl (db : Db) : Grows db db :=
  fun _ _ row found => ⟨row, found, Int.le_refl _, le_rfl⟩

theorem Grows.trans {first second third : Db} (grows : Grows first second)
    (later : Grows second third) : Grows first third := by
  intro txid vout row found
  obtain ⟨row', found', count, rank⟩ := grows txid vout row found
  obtain ⟨row'', found'', count', rank'⟩ := later txid vout row' found'
  exact ⟨row'', found'', Int.le_trans count count', rank.trans rank'⟩

theorem Tracked.lasts {txs : Transactions} {chain later : Chain} {db after : Db}
    {row : OnchainTransactionRecord} (tracked : Tracked txs chain db row)
    (addresses : ∀ address ∈ db.onchainAddresses, address ∈ after.onchainAddresses)
    (height : chain.height ≤ later.height)
    (mined : ∀ txid height, chain.minedAt txid = some height → later.minedAt txid = some height) :
    Tracked txs later after row := by
  obtain ⟨⟨address, member, n, index, pays, status⟩, nonneg, bounded⟩ := tracked
  refine ⟨⟨address, addresses address member, n, index, pays, status⟩, nonneg, ?_⟩
  intro some_
  obtain ⟨block, there, below⟩ := bounded some_
  exact ⟨block, mined _ _ there, by omega⟩

/-! ## What an observation writes -/

/-- The status an observation writes. -/
theorem Sees.tracked {txs : Transactions} {chain : Chain} {db : Db} {observation : Observation}
    (sees : Sees txs chain db observation) {row : OnchainTransactionRecord}
    (txid : row.txid = observation.txid) (vout : row.vout = observation.vout)
    (confirmations : row.confirmations = observation.confirmations)
    (status : row.status = observation.status) : Tracked txs chain db row := by
  obtain ⟨n, index, pays⟩ := sees.pays
  refine ⟨⟨observation.address, sees.address, n, index.trans vout.symm, txid ▸ pays, ?_⟩, ?_, ?_⟩
  · have count : (max observation.confirmations 0).toNat = row.confirmations.toNat := by
      rw [confirmations]
      omega
    rw [status, Observation.status, count]
    rfl
  · rw [confirmations]
    exact sees.nonneg
  · rw [confirmations, txid]
    exact sees.mined

/-- An output that was stored is observed for the same address. -/
theorem Sees.rank_le {txs : Transactions} {chain : Chain} {db : Db} {observation : Observation}
    (addresses : AddressesSound db) (sees : Sees txs chain db observation)
    {row : OnchainTransactionRecord} (tracked : Tracked txs chain db row)
    (found : db.findOutput observation.txid observation.vout = some row) :
    row.status.rank ≤ observation.status.rank := by
  obtain ⟨address, member, n, index, pays, status⟩ := tracked.status
  obtain ⟨n', index', pays'⟩ := sees.pays
  obtain ⟨txid, vout⟩ := Prod.mk.inj (lookup_some found).2
  have sameIndex : n = n' :=
    asI32_injective pays.small pays'.small (index.trans (vout.trans index'.symm))
  rw [txid, sameIndex] at pays
  have sameAddress : address = observation.address :=
    addresses.unique.eq_of_key member sees.address (pays.unique pays')
  have grows := sees.grows row found
  rw [status, sameAddress, Observation.status]
  refine OnchainStatus.rank_fromConfirmations_mono ?_
  omega

/-- **What is seen is stored, and nothing goes back.** -/
theorem Sees.observed {txs : Transactions} {chain : Chain} {now : DateTime} {id : String}
    {observation : Observation} {db after : Db}
    {answer : Except StorageError (Option OnchainTransactionRecord)} (keys : db.DepositKeys)
    (addresses : AddressesSound db)
    (tracked : ∀ row ∈ db.onchainTransactions, Tracked txs chain db row)
    (sees : Sees txs chain db observation)
    (observed : Observed now id observation db answer after) :
    Grows db after ∧ after.onchainAddresses = db.onchainAddresses ∧
      ∀ row ∈ after.onchainTransactions, row ∈ db.onchainTransactions ∨
        outputKey row = (observation.txid, observation.vout) ∧
          row.confirmations = observation.confirmations ∧ Tracked txs chain db row := by
  cases observed with
  | refused error missing bars => exact ⟨.refl db, rfl, fun row member => .inl member⟩
  | unchanged old found same => exact ⟨.refl db, rfl, fun row member => .inl member⟩
  | detected missing free =>
      refine ⟨?_, rfl, ?_⟩
      · intro txid vout row found
        refine ⟨row, ?_, Int.le_refl _, le_rfl⟩
        have looked := findOutput_detected (observation.detectedRow now id observation.amountSat)
          missing rfl txid vout
        refine looked.trans ?_
        split
        · rename_i here
          cases here
          cases missing.symm.trans found
        · exact found
      · intro row member
        rcases List.mem_append.mp member with old | new
        · exact .inl old
        · cases List.mem_singleton.mp new
          exact .inr ⟨rfl, rfl, sees.tracked rfl rfl rfl rfl⟩
  | updated old found differs =>
      have there := lookup_some found
      obtain ⟨txid, vout⟩ := Prod.mk.inj there.2
      refine ⟨?_, rfl, ?_⟩
      · intro otherTxid otherVout row stored
        have looked := findOutput_withObservation now keys found otherTxid otherVout
        split at looked
        · rename_i here
          cases here
          cases found.symm.trans stored
          refine ⟨_, looked, sees.grows old found, ?_⟩
          exact sees.rank_le addresses (tracked old there.1) found
        · exact ⟨row, looked.trans stored, Int.le_refl _, le_rfl⟩
      · intro row member
        obtain ⟨before, stored, rfl⟩ := mem_updateWhere.mp member
        by_cases here : before.id = old.id
        · cases keys.ids.eq_of_key stored there.1 here
          rw [if_pos rfl]
          exact .inr ⟨there.2, rfl, sees.tracked txid vout rfl rfl⟩
        · rw [if_neg here]
          exact .inl stored

/-! ## What a pass carries along -/

/-- The records of a pass are stored. -/
def Pass.Holds (db : Db) (pass : Pass) : Prop :=
  ∀ row ∈ pass.addresses, row ∈ db.onchainAddresses

theorem Pass.Holds.byAddress {db : Db} {pass : Pass} (holds : pass.Holds db) {address : String}
    {row : AddressRecord} (found : pass.byAddress address = some row) :
    row ∈ db.onchainAddresses ∧ row.address = address := by
  obtain ⟨member, same⟩ := lookup_some found
  exact ⟨holds row (List.mem_reverse.mp member), same⟩

/-- A phase over confirmed outputs knows the scan they are of, and no count is ahead of
it; a phase over outputs of the mempool knows that none of them was confirmed. -/
def WatchPhase.Sound (txs : Transactions) (chain : Chain) (db : Db) : WatchPhase → Prop
  | .idle => True
  | .scan pass => pass.Holds db
  | .unspents pass tipHeight rest => pass.Holds db ∧ tipHeight ≤ chain.height ∧
      (∀ row ∈ db.onchainTransactions, ∀ height, 0 < row.confirmations →
        chain.minedAt row.txid = some height → row.confirmations + height ≤ tipHeight + 1) ∧
      ∀ unspent ∈ rest, chain.minedAt unspent.txid = some unspent.height ∧
        unspent.height ≤ tipHeight ∧ txs.Pays unspent.txid unspent.vout unspent.address
  | .outputs pass _ rest => pass.Holds db ∧ ∀ out ∈ rest, txs.Pays out.txid out.vout out.address ∧
      ∀ row ∈ db.onchainTransactions, row.txid = out.txid → row.confirmations = 0

structure Watch.Sound (txs : Transactions) (watch : Watch) : Prop where
  chain : watch.chain.Sound
  keys : watch.db.DepositKeys
  addresses : AddressesSound watch.db
  tracked : ∀ row ∈ watch.db.onchainTransactions, Tracked txs watch.chain watch.db row
  phase : watch.phase.Sound txs watch.chain watch.db

/-- A pass loses nothing while the chain moves and addresses are added. -/
theorem WatchPhase.Sound.lasts {txs : Transactions} {chain later : Chain} {db after : Db}
    {phase : WatchPhase} (sound : phase.Sound txs chain db)
    (tracked : ∀ row ∈ db.onchainTransactions, Tracked txs chain db row)
    (deposits : after.onchainTransactions = db.onchainTransactions)
    (addresses : ∀ address ∈ db.onchainAddresses, address ∈ after.onchainAddresses)
    (height : chain.height ≤ later.height)
    (mined : ∀ txid height, chain.minedAt txid = some height → later.minedAt txid = some height) :
    phase.Sound txs later after := by
  cases phase with
  | idle => trivial
  | scan pass => exact fun row member => addresses row (sound row member)
  | unspents pass tipHeight rest =>
      obtain ⟨holds, below, ahead, found⟩ := sound
      refine ⟨fun row member => addresses row (holds row member), below.trans height, ?_, ?_⟩
      · intro row member block some_ there
        rw [deposits] at member
        obtain ⟨_, before, -⟩ := (tracked row member).mined some_
        cases (mined _ _ before).symm.trans there
        exact ahead row member block some_ before
      · intro unspent member
        obtain ⟨there, under, pays⟩ := found unspent member
        exact ⟨mined _ _ there, under, pays⟩
  | outputs pass txids rest =>
      obtain ⟨holds, unconfirmed⟩ := sound
      refine ⟨fun row member => addresses row (holds row member), fun out member => ?_⟩
      obtain ⟨pays, zero⟩ := unconfirmed out member
      refine ⟨pays, fun row stored => ?_⟩
      rw [deposits] at stored
      exact zero row stored

/-- What a call of `record_observation` leaves of a pass. -/
theorem recordIn_exits (now : DateTime) (id : String) (observation : Observation) (db : Db)
    (pass : Pass) (rest : Pass → WatchPhase) : ∃ answer,
      Observed now id observation db answer (recordIn now id observation db pass rest).db ∧
      ((recordIn now id observation db pass rest).phase = .idle ∨
        ∃ after : Pass, after.addresses = pass.addresses ∧
          (recordIn now id observation db pass rest).phase = rest after) := by
  have observed := recordObservation_observed now id observation db
  unfold recordIn
  split
  · rename_i error after called
    rw [called] at observed
    exact ⟨_, observed, .inl rfl⟩
  · rename_i stored after called
    rw [called] at observed
    exact ⟨_, observed, .inr ⟨pass.count stored, rfl, rfl⟩⟩

/-! ## The steps of a pass -/

/-- The count of a scan, for a block under its tip. -/
theorem scanConfirmations_eq {tipHeight height : ℕ} (bounded : tipHeight < 2 ^ 31)
    (positive : 1 ≤ height) (below : height ≤ tipHeight) :
    scanConfirmations tipHeight height + height = tipHeight + 1 := by
  have small : (tipHeight + 1) % 2 ^ 32 - height < 2 ^ 31 := by omega
  rw [scanConfirmations, asI32_of_lt small]
  omega

/-- What the next confirmed output of a scan is seen with. -/
theorem WatchPhase.Sound.sees_unspent {txs : Transactions} {watch : Watch} {pass : Pass}
    {tipHeight : ℕ} {unspent : Unspent} {rest : List Unspent} {address : AddressRecord}
    (sound : watch.Sound txs)
    (here : watch.phase = .unspents pass tipHeight (unspent :: rest))
    (known : pass.byAddress unspent.address = some address) :
    Sees txs watch.chain watch.db (unspent.observation address tipHeight) ∧
      (unspent.observation address tipHeight).confirmations + unspent.height = tipHeight + 1 := by
  have phase := sound.phase
  rw [here] at phase
  obtain ⟨holds, below, ahead, found⟩ := phase
  obtain ⟨mined, under, pays⟩ := found unspent List.mem_cons_self
  obtain ⟨stored, named⟩ := holds.byAddress known
  have positive := (sound.chain.minedAt_le mined).1
  have bounded := sound.chain.bounded
  have count : (unspent.observation address tipHeight).confirmations + unspent.height =
      tipHeight + 1 := scanConfirmations_eq (by omega) positive under
  refine ⟨⟨stored, ⟨unspent.vout, rfl, ?_⟩, ?_, ?_, ?_⟩, count⟩
  · show txs.Pays unspent.txid unspent.vout address.address
    rw [named]
    exact pays
  · omega
  · intro _
    exact ⟨unspent.height, mined, by omega⟩
  · intro row there
    obtain ⟨member, key⟩ := lookup_some there
    obtain ⟨txid, -⟩ := Prod.mk.inj key
    have before : watch.chain.minedAt row.txid = some unspent.height := txid ▸ mined
    by_cases some_ : 0 < row.confirmations
    · have known := ahead row member unspent.height some_ before
      omega
    · omega

/-- What the next output of the mempool is seen with. -/
theorem WatchPhase.Sound.sees_output {txs : Transactions} {watch : Watch} {pass : Pass}
    {txids : List String} {out : MempoolOutput} {rest : List MempoolOutput}
    {address : AddressRecord} (sound : watch.Sound txs)
    (here : watch.phase = .outputs pass txids (out :: rest))
    (known : pass.byAddress out.address = some address) :
    Sees txs watch.chain watch.db (out.observation address) := by
  have phase := sound.phase
  rw [here] at phase
  obtain ⟨holds, unconfirmed⟩ := phase
  obtain ⟨pays, zero⟩ := unconfirmed out List.mem_cons_self
  obtain ⟨stored, named⟩ := holds.byAddress known
  refine ⟨stored, ⟨out.vout, rfl, ?_⟩, Int.le_refl _, ?_, ?_⟩
  · show txs.Pays out.txid out.vout address.address
    rw [named]
    exact pays
  · intro some_
    exact absurd some_ (Int.lt_irrefl 0)
  · intro row there
    obtain ⟨member, key⟩ := lookup_some there
    obtain ⟨txid, -⟩ := Prod.mk.inj key
    exact Int.le_of_eq (zero row member txid)

/-- **A pass that records what it sees stays sound.** -/
theorem Watch.Sound.recorded {txs : Transactions} {watch : Watch} (sound : watch.Sound txs)
    (now : DateTime) (id : String) {observation : Observation} {pass : Pass}
    {rest : Pass → WatchPhase} (sees : Sees txs watch.chain watch.db observation)
    (goesOn : ∀ (after : Db) (later : Pass), later.addresses = pass.addresses →
      after.onchainAddresses = watch.db.onchainAddresses →
      (∀ row ∈ after.onchainTransactions, row ∈ watch.db.onchainTransactions ∨
        outputKey row = (observation.txid, observation.vout) ∧
          row.confirmations = observation.confirmations) →
      (rest later).Sound txs watch.chain after)
    (results : List (Except WatchError ℕ)) :
    ({ watch with
        db := (recordIn now id observation watch.db pass rest).db
        phase := (recordIn now id observation watch.db pass rest).phase
        results := results } : Watch).Sound txs ∧
      Grows watch.db (recordIn now id observation watch.db pass rest).db := by
  obtain ⟨answer, observed, phase⟩ := recordIn_exits now id observation watch.db pass rest
  obtain ⟨grows, addresses, rows⟩ :=
    sees.observed sound.keys sound.addresses sound.tracked observed
  generalize (recordIn now id observation watch.db pass rest).db = after at *
  generalize (recordIn now id observation watch.db pass rest).phase = next at *
  have kept : ∀ address ∈ watch.db.onchainAddresses, address ∈ after.onchainAddresses := by
    rw [addresses]
    exact fun _ member => member
  refine ⟨⟨sound.chain, sound.keys.observed observed, ?_, ?_, ?_⟩, grows⟩
  · exact ⟨addresses ▸ sound.addresses.unique, addresses ▸ sound.addresses.plain⟩
  · intro row member
    have tracked : Tracked txs watch.chain watch.db row := by
      rcases rows row member with old | ⟨-, -, tracked⟩
      · exact sound.tracked row old
      · exact tracked
    exact tracked.lasts kept le_rfl fun _ _ mined => mined
  · rcases phase with rfl | ⟨later, same, rfl⟩
    · trivial
    · refine goesOn after later same addresses fun row member => ?_
      rcases rows row member with old | ⟨key, count, -⟩
      · exact .inl old
      · exact .inr ⟨key, count⟩

/-- A step of a pass that leaves the database alone. -/
theorem Watch.Sound.moves {txs : Transactions} {watch : Watch} (sound : watch.Sound txs)
    (phase : WatchPhase) (next : phase.Sound txs watch.chain watch.db)
    (results : List (Except WatchError ℕ)) :
    ({ watch with phase := phase, results := results } : Watch).Sound txs ∧
      Grows watch.db watch.db :=
  ⟨⟨sound.chain, sound.keys, sound.addresses, sound.tracked, next⟩, .refl _⟩

/-- What a scan of the confirmed outputs found. -/
theorem Watch.Sound.scanned {txs : Transactions} {watch : Watch} (sound : watch.Sound txs)
    {pass : Pass} (here : watch.phase = .scan pass) {answer : Except RpcError RawScan}
    (truthful : watch.chain.AnswersScan txs pass.names answer) {result : ScanResult}
    (scanned : scanAddresses pass.names answer = .ok result) :
    (WatchPhase.unspents pass result.tipHeight result.unspents).Sound txs watch.chain watch.db := by
  have holds : pass.Holds watch.db := by
    have phase := sound.phase
    rw [here] at phase
    exact phase
  obtain ⟨scan, rfl, tip, found⟩ := scanAddresses_eq_ok scanned
  obtain ⟨height, unspents⟩ := truthful
  refine ⟨holds, (tip.trans height).le, ?_, ?_⟩
  · intro row member block some_ there
    obtain ⟨_, before, bounded⟩ := (sound.tracked row member).mined some_
    cases before.symm.trans there
    rw [tip, height]
    exact bounded
  · intro unspent member
    obtain ⟨raw, there, txid, vout, block, watched, names⟩ := found unspent member
    obtain ⟨mined, address, also, pays, desc⟩ := Chain.mem_unspents (unspents.mem_iff.mp there)
    have plain : ∀ name ∈ pass.names, ')' ∉ name.toList := by
      intro name member
      obtain ⟨row, known, rfl⟩ := List.mem_map.mp member
      exact sound.addresses.plain row (holds row known)
    rw [desc] at names
    have same : unspent.address = address := addrDescriptor_injective (plain _ watched)
      (plain _ also) names (addrDescriptor_starts txs address)
    have mined := sound.chain.minedAt_eq_some.mpr mined
    refine ⟨txid ▸ block ▸ mined, ?_, ?_⟩
    · rw [tip, height, ← block]
      exact (sound.chain.minedAt_le mined).2
    · rw [same, ← txid, ← vout]
      exact pays

/-- What a transaction of the mempool has to show. -/
theorem Watch.Sound.fetched {txs : Transactions} {watch : Watch} (sound : watch.Sound txs)
    {pass : Pass} {txid : String} {txids : List String}
    (here : watch.phase = .outputs pass (txid :: txids) []) {answer : Except RpcError RawTx}
    (truthful : watch.chain.AnswersTransaction txs txid answer) {outputs : List MempoolOutput}
    (fetched : mempoolOutputs txid answer = .ok (some outputs)) :
    (WatchPhase.outputs pass txids outputs).Sound txs watch.chain watch.db := by
  have phase := sound.phase
  rw [here] at phase
  obtain ⟨tx, rfl, unconfirmed, found⟩ := mempoolOutputs_eq_some fetched
  obtain ⟨vout, outside⟩ := truthful
  have waits : txid ∈ watch.chain.mempool := by
    by_contra left
    exact unconfirmed (outside left)
  refine ⟨phase.1, fun out member => ?_⟩
  obtain ⟨rfl, raw, there, index, pays⟩ := found out member
  refine ⟨⟨raw, vout ▸ there, index, pays⟩, fun row stored same => ?_⟩
  by_contra counted
  have tracked := sound.tracked row stored
  have nonneg := tracked.nonneg
  obtain ⟨height, mined, -⟩ := tracked.mined (by omega)
  rw [same] at mined
  exact sound.chain.not_mempool mined waits

/-- The addresses a pass starts with are stored. -/
theorem mem_watchedAddresses {db : Db} {row : AddressRecord} :
    row ∈ db.watchedAddresses ↔ row ∈ db.onchainAddresses :=
  List.mem_insertionSort _

/-- **A step of a pass keeps what is known, and writes nothing back.** -/
theorem Watch.Sound.acts {txs : Transactions} {watch : Watch} {action : WatchAction}
    {scanned : Scanned} (sound : watch.Sound txs)
    (truthful : watch.phase.Truthful txs watch.chain action)
    (acted : watch.phase.act watch.db action = some scanned)
    (results : List (Except WatchError ℕ)) :
    ({ watch with db := scanned.db, phase := scanned.phase, results := results } :
      Watch).Sound txs ∧
      Grows watch.db scanned.db := by
  cases here : watch.phase with
  | idle =>
      rw [here] at acted
      cases action with
      | start =>
          simp only [WatchPhase.act] at acted
          split at acted
          · cases acted
            exact sound.moves .idle trivial results
          · cases acted
            refine sound.moves (.scan _) ?_ results
            exact fun row member => mem_watchedAddresses.mp member
      | stop =>
          cases acted
          exact sound.moves .idle trivial results
      | _ => cases acted
  | scan pass =>
      rw [here] at acted truthful
      cases action with
      | scanned answer =>
          simp only [WatchPhase.act] at acted
          split at acted
          · cases acted
            exact sound.moves .idle trivial results
          · rename_i result found
            cases acted
            exact sound.moves (.unspents _ _ _) (sound.scanned here (truthful _ rfl) found) results
      | stop =>
          cases acted
          exact sound.moves .idle trivial results
      | _ => cases acted
  | unspents pass tipHeight rest =>
      have phase := sound.phase
      rw [here] at acted phase
      cases action with
      | record now id =>
          cases rest with
          | nil => cases acted
          | cons unspent rest =>
              simp only [WatchPhase.act] at acted
              split at acted
              · cases acted
                obtain ⟨holds, below, ahead, found⟩ := phase
                refine sound.moves (.unspents _ _ _) ⟨holds, below, ahead, ?_⟩ results
                exact fun other member => found other (List.mem_cons_of_mem _ member)
              · rename_i address known
                cases acted
                obtain ⟨holds, below, ahead, found⟩ := phase
                obtain ⟨sees, count⟩ := WatchPhase.Sound.sees_unspent sound here known
                obtain ⟨mined, -, -⟩ := found unspent List.mem_cons_self
                refine sound.recorded now id sees ?_ results
                intro after later same addresses rows
                refine ⟨?_, below, ?_,
                  fun other member => found other (List.mem_cons_of_mem _ member)⟩
                · intro row member
                  rw [addresses]
                  rw [same] at member
                  exact holds row member
                · intro row member height some_ there
                  rcases rows row member with old | ⟨key, confirmations⟩
                  · exact ahead row old height some_ there
                  · obtain ⟨txid, -⟩ := Prod.mk.inj key
                    rw [txid] at there
                    cases mined.symm.trans there
                    rw [confirmations]
                    exact Int.le_of_eq count
      | listed answer =>
          cases rest with
          | cons unspent rest => cases acted
          | nil =>
              cases answer with
              | error error =>
                  cases acted
                  exact sound.moves .idle trivial results
              | ok txids =>
                  cases acted
                  refine sound.moves (.outputs _ _ []) ⟨phase.1, ?_⟩ results
                  exact fun out member => absurd member List.not_mem_nil
      | stop => cases rest <;> cases acted <;> exact sound.moves .idle trivial results
      | _ => cases rest <;> cases acted
  | outputs pass txids rest =>
      have phase := sound.phase
      rw [here] at acted phase
      cases action with
      | record now id =>
          cases rest with
          | nil => cases txids <;> cases acted
          | cons out rest =>
              obtain ⟨holds, unconfirmed⟩ := phase
              have skips : (WatchPhase.outputs pass txids rest).Sound txs watch.chain watch.db :=
                ⟨holds, fun other member => unconfirmed other (List.mem_cons_of_mem _ member)⟩
              simp only [WatchPhase.act] at acted
              split at acted
              · cases acted
                exact sound.moves _ skips results
              · rename_i address known
                split at acted
                · cases acted
                  exact sound.moves _ skips results
                · cases acted
                  have sees := WatchPhase.Sound.sees_output sound here known
                  refine sound.recorded now id sees ?_ results
                  intro after later same addresses rows
                  refine ⟨?_, fun other member => ?_⟩
                  · intro row member
                    rw [addresses]
                    rw [same] at member
                    exact holds row member
                  · obtain ⟨pays, zero⟩ := unconfirmed other (List.mem_cons_of_mem _ member)
                    refine ⟨pays, fun row stored txid => ?_⟩
                    rcases rows row stored with old | ⟨-, confirmations⟩
                    · exact zero row old txid
                    · exact confirmations
      | fetched answer =>
          cases rest with
          | cons out rest => cases txids <;> cases acted
          | nil =>
              cases txids with
              | nil => cases acted
              | cons txid txids =>
                  rw [here] at truthful
                  simp only [WatchPhase.act] at acted
                  split at acted
                  · cases acted
                    exact sound.moves .idle trivial results
                  · cases acted
                    refine sound.moves (.outputs pass txids []) ⟨phase.1, ?_⟩ results
                    exact fun out member => absurd member List.not_mem_nil
                  · rename_i found fetched
                    cases acted
                    exact sound.moves _ (sound.fetched here (truthful _ rfl) fetched) results
      | finish =>
          cases rest with
          | cons out rest => cases txids <;> cases acted
          | nil =>
              cases txids with
              | cons txid txids => cases acted
              | nil =>
                  cases acted
                  exact sound.moves .idle trivial results
      | stop =>
          cases txids <;> cases rest <;> cases acted <;> exact sound.moves .idle trivial results
      | _ => cases txids <;> cases rest <;> cases acted

/-- **A step of the watcher, of the chain or of the API keeps what is known, and nothing
that is stored goes back.** -/
theorem Watch.Sound.next {txs : Transactions} {watch next : Watch} {action : WatchAction}
    (sound : watch.Sound txs) (step : (watcher txs).step watch action = some next) :
    next.Sound txs ∧ Grows watch.db next.db := by
  have pass : (if watch.phase.Truthful txs watch.chain action then
      (watch.phase.act watch.db action).map fun scanned => { watch with
        db := scanned.db
        phase := scanned.phase
        results := scanned.results ++ watch.results }
      else none) = some next → next.Sound txs ∧ Grows watch.db next.db := by
    intro moved
    split at moved
    · rename_i truthful
      obtain ⟨scanned, acted, rfl⟩ := Option.map_eq_some_iff.mp moved
      exact sound.acts truthful acted _
    · cases moved
  cases action with
  | chain event =>
      obtain ⟨later, moved, rfl⟩ := Option.map_eq_some_iff.mp step
      obtain ⟨height, mined⟩ := Chain.next_later moved
      refine ⟨⟨sound.chain.next moved, sound.keys, sound.addresses, ?_, ?_⟩, .refl _⟩
      · intro row member
        exact (sound.tracked row member).lasts (fun _ there => there) height mined
      · exact sound.phase.lasts sound.tracked rfl (fun _ there => there) height mined
  | createAddress now id projectId address label requiredConfirmations =>
      simp only [watcher, Watch.step] at step
      split at step
      · cases step
      · rename_i plain
        cases step
        have created := createAddress_cases now id projectId address label requiredConfirmations
          watch.db
        generalize (createAddress now id projectId address label requiredConfirmations
          watch.db).2 = after at created ⊢
        rcases created with rfl | ⟨fresh, rfl⟩
        · exact ⟨sound, .refl _⟩
        · have kept : ∀ row ∈ watch.db.onchainAddresses, row ∈ watch.db.onchainAddresses ++
              [⟨id, projectId, address, label, requiredConfirmations, now⟩] :=
            fun row there => List.mem_append_left _ there
          refine ⟨⟨sound.chain, ⟨sound.keys.ids, sound.keys.outputs⟩, ⟨?_, ?_⟩, ?_, ?_⟩, .refl _⟩
          · exact sound.addresses.unique.append_singleton fun old there => (fresh old there).2
          · intro row member
            rcases List.mem_append.mp member with old | new
            · exact sound.addresses.plain row old
            · cases List.mem_singleton.mp new
              exact plain
          · intro row member
            exact (sound.tracked row member).lasts kept le_rfl fun _ _ mined => mined
          · exact sound.phase.lasts sound.tracked rfl kept le_rfl fun _ _ mined => mined
  | _ => exact pass step

/-! ## Every run -/

theorem watch_sound {txs : Transactions} {watch : Watch} (reached : (watcher txs).Reachable watch) :
    watch.Sound txs := by
  refine reached.invariant (Watch.Sound txs) ?_ ?_
  · rintro watch ⟨deposits, addresses, chain, phase, -⟩
    refine ⟨chain, .empty deposits, ⟨?_, ?_⟩, ?_, ?_⟩
    · rw [addresses]
      exact .nil
    · rw [addresses]
      exact fun _ member => absurd member List.not_mem_nil
    · rw [deposits]
      exact fun _ member => absurd member List.not_mem_nil
    · rw [phase]
      trivial
  · intro watch action next _ sound step
    exact (sound.next step).1

/-- **Confirmations only grow.** Whatever the chain does without a reorganisation, and
however its blocks, arrivals and spends fall between the calls of the passes, the count
of a stored output never decreases and its status never moves back along unconfirmed,
confirming, confirmed. -/
theorem confirmations_monotone {txs : Transactions} {earlier later : Watch}
    (reached : (watcher txs).Reachable earlier) (leads : (watcher txs).Leads earlier later)
    {txid : String} {vout : ℤ} {row : OnchainTransactionRecord}
    (found : earlier.db.findOutput txid vout = some row) :
    ∃ row', later.db.findOutput txid vout = some row' ∧
      row.confirmations ≤ row'.confirmations ∧ row.status.rank ≤ row'.status.rank := by
  have grows : Grows earlier.db later.db := by
    refine Machine.Leads.induct (fun first second => Grows first.db second.db) ?_ ?_ ?_ reached
      leads
    · exact fun watch => .refl watch.db
    · exact fun _ _ _ grows further => grows.trans further
    · exact fun watch action next reached step => ((watch_sound reached).next step).2
  exact grows txid vout row found

/-- One transaction with one output. -/
def oneTransaction : Transactions where
  vout txid := if txid = "aa" then [⟨"0.5", 0, some "bcrt1qaaa"⟩] else []
  checksum _ := "00000000"
  distinct txid := by
    split
    · exact List.nodup_singleton _
    · exact List.nodup_nil
  small txid out member := by
    split at member
    · cases List.mem_singleton.mp member
      decide
    · cases member

/-- A deposit is seen in the mempool. -/
def seenActions : List WatchAction :=
  [.createAddress 0 "adr_1" "prj_1" "bcrt1qaaa" "" 2, .start,
    .scanned (.ok ⟨100, []⟩), .listed (.ok ["aa"]), .chain (.arrive "aa"),
    .fetched (.ok ⟨none, [⟨"0.5", 0, some "bcrt1qaaa"⟩]⟩), .record 1 "txn_1", .finish]

/-- It is mined, and seen again. -/
def minedActions : List WatchAction :=
  [.start, .chain (.block ["aa"] [] []),
    .scanned (.ok ⟨101, [⟨"aa", 0, "addr(bcrt1qaaa)#00000000", "0.5", 101⟩]⟩), .record 2 "txn_2"]

/-- From the mempool to the first confirmation. -/
theorem confirmations_monotone_mined : ∃ earlier later : Watch,
    (watcher oneTransaction).Leads earlier later ∧ ∃ row row',
      earlier.db.findOutput "aa" 0 = some row ∧ row.confirmations = 0 ∧
      later.db.findOutput "aa" 0 = some row' ∧ row'.confirmations = 1 ∧
      row.confirmations ≤ row'.confirmations ∧ row.status.rank ≤ row'.status.rank := by
  have sound : (⟨100, [], [], []⟩ : Chain).Sound := by
    refine ⟨.nil, ?_, ?_, by decide⟩
    · exact fun _ member => absurd member List.not_mem_nil
    · exact fun _ member => absurd member List.not_mem_nil
  have initial : (watcher oneTransaction).initial ⟨{}, ⟨100, [], [], []⟩, .idle, []⟩ :=
    ⟨rfl, rfl, sound, rfl, rfl⟩
  obtain ⟨earlier, seen, row, found, zero, later, mined, row', found', one⟩ : ∃ earlier,
      (watcher oneTransaction).run ⟨{}, ⟨100, [], [], []⟩, .idle, []⟩ seenActions = some earlier ∧
      ∃ row, earlier.db.findOutput "aa" 0 = some row ∧ row.confirmations = 0 ∧ ∃ later,
        (watcher oneTransaction).run earlier minedActions = some later ∧
        ∃ row', later.db.findOutput "aa" 0 = some row' ∧ row'.confirmations = 1 :=
    ⟨_, rfl, _, rfl, rfl, _, rfl, _, rfl, rfl⟩
  have leads := Machine.leads_of_run mined
  obtain ⟨other, there, count, rank⟩ :=
    confirmations_monotone (Machine.reachable_of_run initial seen) leads found
  cases found'.symm.trans there
  exact ⟨earlier, later, leads, row, row', found, zero, found', one, count, rank⟩

end Safrod
