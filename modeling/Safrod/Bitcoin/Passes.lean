import Safrod.Bitcoin.Confirmations

/-!
# What a pass writes

`WatchStep` lists what a step of the watcher, of the chain or of the API can be. Every stored
deposit is then an output that a transaction has, with the amount that it has, credited to
the address that it pays and to its project (`deposits_genuine`).
-/

set_option autoImplicit false

namespace Safrod

open Table Db

/-! ## The steps -/

/-- What a step does, by the phase it is taken in. -/
inductive WatchStep (txs : Transactions) (watch : Watch) : WatchAction → Watch → Prop where
  | chain (event : ChainEvent) (later : Chain) (moved : watch.chain.next event = some later) :
      WatchStep txs watch (.chain event) { watch with chain := later }
  | created (now : DateTime) (id projectId address label : String) (requiredConfirmations : ℤ) :
      WatchStep txs watch (.createAddress now id projectId address label requiredConfirmations)
        { watch with
          db := (createAddress now id projectId address label requiredConfirmations watch.db).2 }
  | nothing (here : watch.phase = .idle) (unwatched : watch.db.watchedAddresses = []) :
      WatchStep txs watch .start
        { watch with phase := .idle, results := .ok 0 :: watch.results }
  | started (here : watch.phase = .idle) (watched : watch.db.watchedAddresses ≠ []) :
      WatchStep txs watch .start { watch with phase := .scan ⟨watch.db.watchedAddresses, [], 0⟩ }
  | failed (action : WatchAction) (begins : action ≠ .start) (error : WatchError) :
      WatchStep txs watch action
        { watch with phase := .idle, results := .error error :: watch.results }
  | stopped : WatchStep txs watch .stop { watch with phase := .idle }
  | scanned (pass : Pass) (here : watch.phase = .scan pass) (scan : RawScan)
      (truthful : watch.chain.AnswersScan txs pass.names (.ok scan)) (result : ScanResult)
      (found : scanAddresses pass.names (.ok scan) = .ok result) :
      WatchStep txs watch (.scanned (.ok scan))
        { watch with phase := .unspents pass result.tipHeight result.unspents }
  | passedUnspent (now : DateTime) (id : String) (pass : Pass) (tipHeight : ℕ)
      (unspent : Unspent) (rest : List Unspent)
      (here : watch.phase = .unspents pass tipHeight (unspent :: rest))
      (unknown : pass.byAddress unspent.address = none) :
      WatchStep txs watch (.record now id) { watch with phase := .unspents pass tipHeight rest }
  | recordedUnspent (now : DateTime) (id : String) (pass : Pass) (tipHeight : ℕ)
      (unspent : Unspent) (rest : List Unspent)
      (here : watch.phase = .unspents pass tipHeight (unspent :: rest)) (address : AddressRecord)
      (known : pass.byAddress unspent.address = some address)
      (stored : Option OnchainTransactionRecord) (after : Db)
      (observed : Observed now id (unspent.observation address tipHeight) watch.db (.ok stored)
        after) :
      WatchStep txs watch (.record now id)
        { watch with
          db := after
          phase := .unspents ((pass.seeing unspent).count stored) tipHeight rest }
  | listed (pass : Pass) (tipHeight : ℕ) (here : watch.phase = .unspents pass tipHeight [])
      (txids : List String) :
      WatchStep txs watch (.listed (.ok txids))
        { watch with phase := .outputs pass (txids.take maxMempoolTxs) [] }
  | left (answer : Except RpcError RawTx) (pass : Pass) (txid : String) (txids : List String)
      (here : watch.phase = .outputs pass (txid :: txids) [])
      (fetched : mempoolOutputs txid answer = .ok none) :
      WatchStep txs watch (.fetched answer) { watch with phase := .outputs pass txids [] }
  | fetched (answer : Except RpcError RawTx) (pass : Pass) (txid : String) (txids : List String)
      (here : watch.phase = .outputs pass (txid :: txids) [])
      (truthful : watch.chain.AnswersTransaction txs txid answer) (outputs : List MempoolOutput)
      (fetched : mempoolOutputs txid answer = .ok (some outputs)) :
      WatchStep txs watch (.fetched answer) { watch with phase := .outputs pass txids outputs }
  | passedOutput (now : DateTime) (id : String) (pass : Pass) (txids : List String)
      (out : MempoolOutput) (rest : List MempoolOutput)
      (here : watch.phase = .outputs pass txids (out :: rest))
      (passes : pass.byAddress out.address = none ∨ (out.txid, out.vout) ∈ pass.seenConfirmed) :
      WatchStep txs watch (.record now id) { watch with phase := .outputs pass txids rest }
  | recordedOutput (now : DateTime) (id : String) (pass : Pass) (txids : List String)
      (out : MempoolOutput) (rest : List MempoolOutput)
      (here : watch.phase = .outputs pass txids (out :: rest)) (address : AddressRecord)
      (known : pass.byAddress out.address = some address)
      (unseen : (out.txid, out.vout) ∉ pass.seenConfirmed)
      (stored : Option OnchainTransactionRecord) (after : Db)
      (observed : Observed now id (out.observation address) watch.db (.ok stored) after) :
      WatchStep txs watch (.record now id)
        { watch with db := after, phase := .outputs (pass.count stored) txids rest }
  | finished (pass : Pass) (here : watch.phase = .outputs pass [] []) :
      WatchStep txs watch .finish
        { watch with phase := .idle, results := .ok pass.changed :: watch.results }

section Steps

variable {txs : Transactions} {watch : Watch}

/-- A call of `record_observation` in a pass: it goes on, or it ends with nothing written. -/
theorem recordIn_watchStep (now : DateTime) (id : String) (observation : Observation) (pass : Pass)
    (rest : Pass → WatchPhase)
    (goesOn : ∀ stored after, Observed now id observation watch.db (.ok stored) after →
      WatchStep txs watch (.record now id)
        { watch with db := after, phase := rest (pass.count stored) }) :
    WatchStep txs watch (.record now id)
      { watch with
        db := (recordIn now id observation watch.db pass rest).db
        phase := (recordIn now id observation watch.db pass rest).phase
        results := (recordIn now id observation watch.db pass rest).results ++ watch.results } := by
  have observed := recordObservation_observed now id observation watch.db
  unfold recordIn
  split
  · rename_i error after called
    rw [called] at observed
    cases observed with
    | refused error missing bars =>
        exact .failed (.record now id) (fun same => by cases same) (.storage error)
  · rename_i stored after called
    rw [called] at observed
    exact goesOn stored after observed

/-- **A step is one of the listed ones.** -/
theorem watchStep {action : WatchAction} {next : Watch}
    (step : (watcher txs).step watch action = some next) : WatchStep txs watch action next := by
  have pass : (if watch.phase.Truthful txs watch.chain action then
      (watch.phase.act watch.db action).map fun scanned => { watch with
        db := scanned.db
        phase := scanned.phase
        results := scanned.results ++ watch.results }
      else none) = some next → WatchStep txs watch action next := by
    intro moved
    split at moved
    · rename_i truthful
      obtain ⟨scanned, acted, rfl⟩ := Option.map_eq_some_iff.mp moved
      cases here : watch.phase with
      | idle =>
          rw [here] at acted
          cases action with
          | start =>
              simp only [WatchPhase.act] at acted
              split at acted
              · rename_i unwatched
                cases acted
                exact .nothing here (List.isEmpty_iff.mp unwatched)
              · rename_i watched
                cases acted
                exact .started here fun none_ => watched (by rw [none_]; rfl)
          | stop =>
              cases acted
              exact .stopped
          | _ => cases acted
      | scan pass =>
          rw [here] at acted truthful
          cases action with
          | scanned answer =>
              simp only [WatchPhase.act] at acted
              split at acted
              · rename_i error _
                cases acted
                exact .failed (.scanned answer) (fun same => by cases same) (.rpc error)
              · rename_i result found
                cases acted
                cases answer with
                | error error => cases found
                | ok scan => exact .scanned pass here scan (truthful _ rfl) result found
          | stop =>
              cases acted
              exact .stopped
          | _ => cases acted
      | unspents pass tipHeight rest =>
          rw [here] at acted
          cases action with
          | record now id =>
              cases rest with
              | nil => cases acted
              | cons unspent rest =>
                  simp only [WatchPhase.act] at acted
                  split at acted
                  · rename_i unknown
                    cases acted
                    exact .passedUnspent now id pass tipHeight unspent rest here unknown
                  · rename_i address known
                    cases acted
                    refine recordIn_watchStep now id _ (pass.seeing unspent)
                      (fun pass => .unspents pass tipHeight rest) fun stored after observed => ?_
                    exact .recordedUnspent now id pass tipHeight unspent rest here address known
                      stored after observed
          | listed answer =>
              cases rest with
              | cons unspent rest => cases acted
              | nil =>
                  cases answer with
                  | error error =>
                      cases acted
                      exact .failed (.listed (.error error)) (fun same => by cases same)
                        (.rpc error)
                  | ok txids =>
                      cases acted
                      exact .listed pass tipHeight here txids
          | stop => cases rest <;> cases acted <;> exact .stopped
          | _ => cases rest <;> cases acted
      | outputs pass txids rest =>
          rw [here] at acted truthful
          cases action with
          | record now id =>
              cases rest with
              | nil => cases txids <;> cases acted
              | cons out rest =>
                  simp only [WatchPhase.act] at acted
                  split at acted
                  · rename_i unknown
                    cases acted
                    exact .passedOutput now id pass txids out rest here (.inl unknown)
                  · rename_i address known
                    split at acted
                    · rename_i seen
                      cases acted
                      exact .passedOutput now id pass txids out rest here (.inr seen)
                    · rename_i unseen
                      cases acted
                      refine recordIn_watchStep now id _ pass
                        (fun pass => .outputs pass txids rest) fun stored after observed => ?_
                      exact .recordedOutput now id pass txids out rest here address known unseen
                        stored after observed
          | fetched answer =>
              cases rest with
              | cons out rest => cases txids <;> cases acted
              | nil =>
                  cases txids with
                  | nil => cases acted
                  | cons txid txids =>
                      simp only [WatchPhase.act] at acted
                      split at acted
                      · rename_i error _
                        cases acted
                        exact .failed (.fetched answer) (fun same => by cases same) (.rpc error)
                      · rename_i left
                        cases acted
                        exact .left answer pass txid txids here left
                      · rename_i outputs found
                        cases acted
                        exact .fetched answer pass txid txids here (truthful _ rfl) outputs found
          | finish =>
              cases rest with
              | cons out rest => cases txids <;> cases acted
              | nil =>
                  cases txids with
                  | cons txid txids => cases acted
                  | nil =>
                      cases acted
                      exact .finished pass here
          | stop => cases txids <;> cases rest <;> cases acted <;> exact .stopped
          | _ => cases txids <;> cases rest <;> cases acted
    · cases moved
  cases action with
  | chain event =>
      obtain ⟨later, moved, rfl⟩ := Option.map_eq_some_iff.mp step
      exact .chain event later moved
  | createAddress now id projectId address label requiredConfirmations =>
      simp only [watcher, Watch.step] at step
      split at step
      · cases step
      · cases step
        exact .created now id projectId address label requiredConfirmations
  | _ => exact pass step

/-! ## What the node answers -/

/-- An output of the transaction pays the address the amount. -/
def Transactions.PaysSats (txs : Transactions) (txid : String) (n : ℕ) (address : String)
    (amountSat : ℕ) : Prop :=
  ∃ out ∈ txs.vout txid, out.n = n ∧ out.address = some address ∧
    btcToSats out.value = .ok amountSat

theorem Transactions.PaysSats.pays {txs : Transactions} {txid address : String} {n amountSat : ℕ}
    (pays : txs.PaysSats txid n address amountSat) : txs.Pays txid n address := by
  obtain ⟨out, member, index, paid, -⟩ := pays
  exact ⟨out, member, index, paid⟩

theorem mem_chain_unspents {txs : Transactions} {chain : Chain} {names : List String}
    {raw : RawUnspent} :
    raw ∈ chain.unspents txs names ↔
      (raw.txid, raw.height) ∈ chain.mined ∧ (raw.txid, raw.vout) ∉ chain.spent ∧
        ∃ out ∈ txs.vout raw.txid, ∃ address ∈ names, out.n = raw.vout ∧
          out.address = some address ∧ raw.desc = txs.descriptor address ∧
            raw.amount = out.value := by
  constructor
  · intro member
    obtain ⟨⟨txid, height⟩, mined, there⟩ := List.mem_flatMap.mp member
    obtain ⟨out, paid, made⟩ := List.mem_filterMap.mp there
    split at made
    · cases made
    · rename_i address pays
      split at made
      · rename_i watched
        cases made
        exact ⟨mined, watched.2, out, paid, address, watched.1, rfl, pays, rfl, rfl⟩
      · cases made
  · rintro ⟨mined, unspent, out, paid, address, watched, index, pays, desc, amount⟩
    refine List.mem_flatMap.mpr ⟨_, mined, List.mem_filterMap.mpr ⟨out, paid, ?_⟩⟩
    simp only [pays, index, ← desc, ← amount]
    exact if_pos ⟨watched, unspent⟩

/-- **A scan returns the unspent outputs of its tip that pay the addresses.** -/
structure ScanFound (txs : Transactions) (chain : Chain) (names : List String)
    (result : ScanResult) : Prop where
  tip : result.tipHeight = chain.height
  found : ∀ unspent ∈ result.unspents, chain.minedAt unspent.txid = some unspent.height ∧
    unspent.address ∈ names ∧
    txs.PaysSats unspent.txid unspent.vout unspent.address unspent.amountSat
  complete : ∀ txid height, chain.minedAt txid = some height → ∀ out ∈ txs.vout txid,
    ∀ address ∈ names, out.address = some address → (txid, out.n) ∉ chain.spent →
    ∃ unspent ∈ result.unspents, unspent.txid = txid ∧ unspent.vout = out.n ∧
      unspent.address = address

theorem unspentOf_eq_ok {names : List String} {raw : RawUnspent} {unspent : Unspent}
    (made : unspentOf names raw = .ok unspent) :
    unspent.txid = raw.txid ∧ unspent.vout = raw.vout ∧ unspent.height = raw.height ∧
      addressForScript names raw.desc = some unspent.address ∧
      btcToSats raw.amount = .ok unspent.amountSat := by
  unfold unspentOf at made
  split at made
  · cases made
  · rename_i address found
    obtain ⟨amountSat, amount, same⟩ := Except.exists_of_map_eq_ok made
    cases same
    exact ⟨rfl, rfl, rfl, found, amount⟩

/-- A descriptor is matched to the address it names. -/
theorem addressForScript_descriptor {txs : Transactions} {names : List String}
    (plain : ∀ name ∈ names, ')' ∉ name.toList) {address found : String}
    (watched : address ∈ names)
    (matched : addressForScript names (txs.descriptor address) = some found) :
    found = address := by
  have known : found ∈ names := List.mem_of_find?_eq_some matched
  rw [addressForScript, List.find?_eq_some_iff_append] at matched
  have starts := of_decide_eq_true matched.1
  exact addrDescriptor_injective (plain found known) (plain address watched) starts
    (addrDescriptor_starts txs address)

theorem scanFound {chain : Chain} {names : List String} (sound : chain.Sound)
    (plain : ∀ name ∈ names, ')' ∉ name.toList) {scan : RawScan} {result : ScanResult}
    (truthful : chain.AnswersScan txs names (.ok scan))
    (scanned : scanAddresses names (.ok scan) = .ok result) : ScanFound txs chain names result := by
  obtain ⟨height, unspents⟩ := truthful
  obtain ⟨found, made, same⟩ := Except.exists_of_map_eq_ok scanned
  cases same
  refine ⟨height, ?_, ?_⟩
  · intro unspent member
    obtain ⟨raw, there, this⟩ := Except.exists_of_mem_mapM made member
    obtain ⟨txid, vout, block, matched, value⟩ := unspentOf_eq_ok this
    obtain ⟨mined, -, out, paid, address, watched, index, pays, desc, amount⟩ :=
      mem_chain_unspents.mp (unspents.mem_iff.mp there)
    rw [desc] at matched
    have named := addressForScript_descriptor plain watched matched
    refine ⟨?_, named ▸ watched, out, txid ▸ paid, index.trans vout.symm, named ▸ pays, ?_⟩
    · rw [txid, block]
      exact sound.minedAt_eq_some.mpr mined
    · rw [← amount]
      exact value
  · intro txid height mined out paid address watched pays unspent
    have there : (⟨txid, out.n, txs.descriptor address, out.value, height⟩ : RawUnspent) ∈
        scan.unspents := by
      refine unspents.mem_iff.mpr (mem_chain_unspents.mpr ?_)
      exact ⟨sound.minedAt_eq_some.mp mined, unspent, out, paid, address, watched, rfl, pays, rfl,
        rfl⟩
    obtain ⟨result, member, this⟩ := Except.exists_mem_of_mapM made there
    obtain ⟨txid, vout, -, matched, -⟩ := unspentOf_eq_ok this
    exact ⟨result, member, txid, vout, addressForScript_descriptor plain watched matched⟩

/-- The outputs of a transaction of the mempool, with their amounts. -/
theorem mempoolOutputs_pay {txid : String} {chain : Chain} {answer : Except RpcError RawTx}
    (truthful : chain.AnswersTransaction txs txid answer) {outputs : List MempoolOutput}
    (fetched : mempoolOutputs txid answer = .ok (some outputs)) {out : MempoolOutput}
    (member : out ∈ outputs) : txs.PaysSats out.txid out.vout out.address out.amountSat := by
  unfold mempoolOutputs at fetched
  split at fetched
  · cases fetched
  · cases fetched
  · split at fetched
    · cases fetched
    · obtain ⟨found, done, same⟩ := Except.exists_of_map_eq_ok fetched
      cases same
      obtain ⟨raw, there, made⟩ :=
        Except.exists_of_mem_mapM done (List.reduceOption_mem_iff.mp member)
      unfold mempoolOutput at made
      split at made
      · cases made
      · rename_i address pays
        obtain ⟨amountSat, amount, same⟩ := Except.exists_of_map_eq_ok made
        cases same
        exact ⟨raw, truthful.1 ▸ there, rfl, pays, amount⟩

end Steps

/-! ## Deposits are what transactions pay -/

/-- The deposit is an output of its transaction, with the amount of the output, credited to the
address that it pays and to its project. -/
def Genuine (txs : Transactions) (db : Db) (row : OnchainTransactionRecord) : Prop :=
  ∃ address ∈ db.onchainAddresses, ∃ n amountSat, asI32 n = row.vout ∧
    txs.PaysSats row.txid n address.address amountSat ∧ row.amountSat = amountSat ∧
    row.addressId = address.id ∧ row.projectId = address.projectId

/-- What a pass has yet to record is paid by transactions. -/
def WatchPhase.Paid (txs : Transactions) : WatchPhase → Prop
  | .unspents _ _ rest => ∀ unspent ∈ rest,
      txs.PaysSats unspent.txid unspent.vout unspent.address unspent.amountSat
  | .outputs _ _ rest => ∀ out ∈ rest, txs.PaysSats out.txid out.vout out.address out.amountSat
  | _ => True

structure Watch.Genuine (txs : Transactions) (watch : Watch) : Prop where
  deposits : ∀ row ∈ watch.db.onchainTransactions, Safrod.Genuine txs watch.db row
  phase : watch.phase.Paid txs

/-- An observation of what a transaction pays is stored as it is. -/
theorem genuine_observed {txs : Transactions} {db after : Db} {now : DateTime} {id : String}
    {observation : Observation} {answer : Except StorageError (Option OnchainTransactionRecord)}
    (genuine : ∀ row ∈ db.onchainTransactions, Genuine txs db row)
    (address : observation.address ∈ db.onchainAddresses) {n : ℕ}
    (index : asI32 n = observation.vout)
    (pays : txs.PaysSats observation.txid n observation.address.address observation.amountSat)
    (observed : Observed now id observation db answer after) :
    ∀ row ∈ after.onchainTransactions, Genuine txs after row := by
  cases observed with
  | refused error missing bars => exact genuine
  | unchanged old found same => exact genuine
  | detected missing free =>
      intro row member
      rcases List.mem_append.mp member with old | new
      · exact genuine row old
      · cases List.mem_singleton.mp new
        exact ⟨observation.address, address, n, observation.amountSat, index, pays, rfl, rfl, rfl⟩
  | updated old found differs =>
      intro row member
      obtain ⟨before, stored, rfl⟩ := mem_updateWhere.mp member
      have held := genuine before stored
      split
      · exact held
      · exact held

theorem Watch.Genuine.next {txs : Transactions} {watch next : Watch} {action : WatchAction}
    (genuine : watch.Genuine txs) (sound : watch.Sound txs)
    (step : WatchStep txs watch action next) : next.Genuine txs := by
  cases step with
  | chain event later moved => exact ⟨genuine.deposits, genuine.phase⟩
  | created now id projectId address label requiredConfirmations =>
      rcases createAddress_cases now id projectId address label requiredConfirmations watch.db with
        same | ⟨fresh, made⟩
      · rw [same]
        exact genuine
      · rw [made]
        refine ⟨fun row member => ?_, genuine.phase⟩
        obtain ⟨address, stored, rest⟩ := genuine.deposits row member
        exact ⟨address, List.mem_append_left _ stored, rest⟩
  | nothing here unwatched => exact ⟨genuine.deposits, trivial⟩
  | started here watched => exact ⟨genuine.deposits, trivial⟩
  | failed action begins error => exact ⟨genuine.deposits, trivial⟩
  | stopped => exact ⟨genuine.deposits, trivial⟩
  | scanned pass here scan truthful result found =>
      refine ⟨genuine.deposits, fun unspent member => ?_⟩
      have plain : ∀ name ∈ pass.names, ')' ∉ name.toList := by
        have phase := sound.phase
        rw [here] at phase
        intro name listed
        obtain ⟨row, known, rfl⟩ := List.mem_map.mp listed
        exact sound.addresses.plain row (phase row known)
      exact ((scanFound sound.chain plain truthful found).found unspent member).2.2
  | passedUnspent now id pass tipHeight unspent rest here unknown =>
      have phase := genuine.phase
      rw [here] at phase
      exact ⟨genuine.deposits, fun other member => phase other (List.mem_cons_of_mem _ member)⟩
  | recordedUnspent now id pass tipHeight unspent rest here address known stored after observed =>
      have phase := genuine.phase
      have holds := sound.phase
      rw [here] at phase holds
      obtain ⟨stored, named⟩ := holds.1.byAddress known
      refine ⟨genuine_observed genuine.deposits stored rfl ?_ observed,
        fun other member => phase other (List.mem_cons_of_mem _ member)⟩
      show txs.PaysSats unspent.txid unspent.vout address.address unspent.amountSat
      rw [named]
      exact phase unspent List.mem_cons_self
  | listed pass tipHeight here txids =>
      exact ⟨genuine.deposits, fun out member => absurd member List.not_mem_nil⟩
  | left answer pass txid txids here fetched =>
      exact ⟨genuine.deposits, fun out member => absurd member List.not_mem_nil⟩
  | fetched answer pass txid txids here truthful outputs fetched =>
      exact ⟨genuine.deposits, fun out member => mempoolOutputs_pay truthful fetched member⟩
  | passedOutput now id pass txids out rest here passes =>
      have phase := genuine.phase
      rw [here] at phase
      exact ⟨genuine.deposits, fun other member => phase other (List.mem_cons_of_mem _ member)⟩
  | recordedOutput now id pass txids out rest here address known unseen stored after observed =>
      have phase := genuine.phase
      have holds := sound.phase
      rw [here] at phase holds
      obtain ⟨stored, named⟩ := holds.1.byAddress known
      refine ⟨genuine_observed genuine.deposits stored rfl ?_ observed,
        fun other member => phase other (List.mem_cons_of_mem _ member)⟩
      show txs.PaysSats out.txid out.vout address.address out.amountSat
      rw [named]
      exact phase out List.mem_cons_self
  | finished pass here => exact ⟨genuine.deposits, trivial⟩

/-- **No deposit is made up.** However the chain grows between the calls of the passes (no block
is ever disconnected), every stored deposit is an output of its transaction that pays a watched
address, with exactly the amount of the output, and it is credited to this address and to the
project of the address. -/
theorem deposits_genuine {txs : Transactions} {watch : Watch}
    (reached : (watcher txs).Reachable watch) {row : OnchainTransactionRecord}
    (stored : row ∈ watch.db.onchainTransactions) : Genuine txs watch.db row := by
  have genuine : watch.Genuine txs := by
    refine reached.invariant (Watch.Genuine txs) ?_ ?_
    · rintro watch ⟨deposits, addresses, chain, phase, -⟩
      refine ⟨?_, ?_⟩
      · rw [deposits]
        exact fun row member => absurd member List.not_mem_nil
      · rw [phase]
        trivial
    · intro watch action next reached genuine step
      exact genuine.next (watch_sound reached) (watchStep step)
  exact genuine.deposits row stored

/-- A chain of 100 blocks, none of which pays anyone. -/
def emptyChain : Chain := ⟨100, [], [], []⟩

theorem emptyChain_sound : emptyChain.Sound := by
  refine ⟨.nil, ?_, ?_, by decide⟩
  · exact fun _ member => absurd member List.not_mem_nil
  · exact fun _ member => absurd member List.not_mem_nil

theorem emptyChain_initial : (watcher oneTransaction).initial ⟨{}, emptyChain, .idle, []⟩ :=
  ⟨rfl, rfl, emptyChain_sound, rfl, rfl⟩

/-- The deposit that a pass finds in the mempool. -/
theorem deposits_genuine_seen : ∃ watch row,
    (watcher oneTransaction).run ⟨{}, emptyChain, .idle, []⟩ seenActions = some watch ∧
      row ∈ watch.db.onchainTransactions ∧ row.amountSat = 50_000_000 ∧
      Genuine oneTransaction watch.db row := by
  obtain ⟨watch, ran, row, stored, amount⟩ : ∃ watch,
      (watcher oneTransaction).run ⟨{}, emptyChain, .idle, []⟩ seenActions = some watch ∧
      ∃ row, watch.db.onchainTransactions = [row] ∧ row.amountSat = 50_000_000 :=
    ⟨_, rfl, _, rfl, rfl⟩
  have member : row ∈ watch.db.onchainTransactions := by
    rw [stored]
    exact List.mem_singleton_self row
  exact ⟨watch, row, ran, member, amount,
    deposits_genuine (Machine.reachable_of_run emptyChain_initial ran) member⟩

end Safrod
