import Safrod.Bitcoin.Passes

/-!
# A pass catches up with the chain

A pass that comes to its end has stored every confirmed output that was unspent when it
scanned, with the count of the scan, whatever happened to the chain meanwhile
(`pass_catches_up`). Run again on the same answers of the node, with no address created
meanwhile, it writes nothing (`second_pass_silent`).

`Catching` is what a pass has done of its scan, and `Listing` what it has done of the mempool.
-/

set_option autoImplicit false

namespace Safrod

open Table Db

/-! ## One observation -/

/-- What is stored after an observation. -/
theorem findOutput_observed {now : DateTime} {id : String} {observation : Observation}
    {db after : Db} {stored : Option OnchainTransactionRecord} (keys : db.DepositKeys)
    (observed : Observed now id observation db (.ok stored) after) (txid : String) (vout : ℤ) :
    ∃ row, row.confirmations = observation.confirmations ∧ after.findOutput txid vout =
      if (observation.txid, observation.vout) = (txid, vout) then some row
      else db.findOutput txid vout := by
  cases observed with
  | detected missing free =>
      exact ⟨_, rfl, findOutput_detected
        (observation.detectedRow now id observation.amountSat) missing rfl txid vout⟩
  | unchanged old found same =>
      refine ⟨old, same, ?_⟩
      split
      · rename_i here
        cases here
        exact found
      · rfl
  | updated old found differs =>
      exact ⟨_, rfl, findOutput_withObservation now keys found txid vout⟩

/-- An observation with the count that is stored changes nothing. -/
theorem observed_unchanged {now : DateTime} {id : String} {observation : Observation}
    {db after : Db} {stored : Option OnchainTransactionRecord}
    (observed : Observed now id observation db (.ok stored) after) {row : OnchainTransactionRecord}
    (found : db.findOutput observation.txid observation.vout = some row)
    (same : row.confirmations = observation.confirmations) : stored = none ∧ after = db := by
  cases observed with
  | detected missing free => cases missing.symm.trans found
  | unchanged old there _ => exact ⟨rfl, rfl⟩
  | updated old there differs =>
      cases there.symm.trans found
      exact absurd same differs

theorem onchainAddresses_observed {now : DateTime} {id : String} {observation : Observation}
    {db after : Db} {answer : Except StorageError (Option OnchainTransactionRecord)}
    (observed : Observed now id observation db answer after) :
    after.onchainAddresses = db.onchainAddresses := by
  cases observed with
  | _ => rfl

/-! ## The confirmed outputs of a pass -/

/-- The output is stored with the count of the scan. -/
def CountStored (db : Db) (tipHeight : ℕ) (unspent : Unspent) : Prop :=
  ∃ row, db.findOutput unspent.txid (asI32 unspent.vout) = some row ∧
    row.confirmations = scanConfirmations tipHeight unspent.height

/-- The output was recorded, and is known to have been. -/
def ScanDone (db : Db) (tipHeight : ℕ) (pass : Pass) (unspent : Unspent) : Prop :=
  CountStored db tipHeight unspent ∧ (unspent.txid, unspent.vout) ∈ pass.seenConfirmed

/-- What a pass over the addresses has done of what a scan found. -/
def WatchPhase.Catching (addresses : List AddressRecord) (result : ScanResult) (db : Db) :
    WatchPhase → Prop
  | .idle => True
  | .scan _ => False
  | .unspents pass tipHeight rest => pass.addresses = addresses ∧ tipHeight = result.tipHeight ∧
      (∀ unspent ∈ rest, unspent ∈ result.unspents) ∧
      (∀ unspent ∈ result.unspents, unspent ∈ rest ∨ ScanDone db result.tipHeight pass unspent) ∧
      ∀ output ∈ pass.seenConfirmed, ∃ unspent ∈ result.unspents,
        (unspent.txid, unspent.vout) = output
  | .outputs pass _ _ => pass.addresses = addresses ∧
      (∀ unspent ∈ result.unspents, ScanDone db result.tipHeight pass unspent) ∧
      ∀ output ∈ pass.seenConfirmed, ∃ unspent ∈ result.unspents,
        (unspent.txid, unspent.vout) = output

/-- An address that is watched is known to the pass. -/
theorem Pass.byAddress_known {pass : Pass} {address : String} (watched : address ∈ pass.names) :
    pass.byAddress address ≠ none := by
  obtain ⟨row, member, rfl⟩ := List.mem_map.mp watched
  obtain ⟨found, looked⟩ := lookup_isSome_of_mem (fun row : AddressRecord => row.address)
    (List.mem_reverse.mpr member)
  rw [Pass.byAddress, looked]
  exact Option.some_ne_none found

/-- A later observation leaves the count of a scan, when it is of another output or of the
same scan. -/
theorem CountStored.observed {now : DateTime} {id : String} {observation : Observation}
    {db after : Db} {stored : Option OnchainTransactionRecord} {tipHeight : ℕ} {unspent : Unspent}
    (held : CountStored db tipHeight unspent) (keys : db.DepositKeys)
    (observed : Observed now id observation db (.ok stored) after)
    (agrees : (observation.txid, observation.vout) = (unspent.txid, asI32 unspent.vout) →
      observation.confirmations = scanConfirmations tipHeight unspent.height) :
    CountStored after tipHeight unspent := by
  obtain ⟨row, found, count⟩ := held
  obtain ⟨written, same, looked⟩ :=
    findOutput_observed keys observed unspent.txid (asI32 unspent.vout)
  by_cases here : (observation.txid, observation.vout) = (unspent.txid, asI32 unspent.vout)
  · rw [if_pos here] at looked
    exact ⟨written, looked, same.trans (agrees here)⟩
  · rw [if_neg here] at looked
    exact ⟨row, looked.trans found, count⟩

section Scan

variable {txs : Transactions} {scannedAt : Chain} {names : List String} {result : ScanResult}

/-- Outputs of one transaction are in one block. -/
theorem ScanFound.height_eq (found : ScanFound txs scannedAt names result)
    {first second : Unspent} (firstMember : first ∈ result.unspents)
    (secondMember : second ∈ result.unspents) (same : first.txid = second.txid) :
    first.height = second.height := by
  have one := (found.found first firstMember).1
  have two := (found.found second secondMember).1
  rw [same] at one
  exact Option.some.inj (one.symm.trans two)

theorem ScanFound.vout_eq (found : ScanFound txs scannedAt names result) {unspent : Unspent}
    (member : unspent ∈ result.unspents) {txid address : String} {vout : ℕ}
    (pays : txs.Pays txid vout address)
    (same : (txid, asI32 vout) = (unspent.txid, asI32 unspent.vout)) :
    (txid, vout) = (unspent.txid, unspent.vout) := by
  obtain ⟨sameTxid, sameVout⟩ := Prod.mk.inj same
  have small := (found.found unspent member).2.2.pays.small
  rw [sameTxid, asI32_injective pays.small small sameVout]

/-- **A step of a pass loses nothing of what the pass has done.** -/
theorem WatchPhase.Catching.next {addresses : List AddressRecord} {watch next : Watch}
    {action : WatchAction}
    (found : ScanFound txs scannedAt (addresses.map fun row => row.address) result)
    (sound : watch.Sound txs) (step : WatchStep txs watch action next) (within : action ≠ .start)
    (catching : watch.phase.Catching addresses result watch.db) :
    next.phase.Catching addresses result next.db := by
  cases step with
  | chain event later moved => exact catching
  | created now id projectId address label requiredConfirmations =>
      rcases createAddress_cases now id projectId address label requiredConfirmations watch.db with
        same | ⟨fresh, made⟩
      · rw [same]
        exact catching
      · rw [made]
        cases here : watch.phase with
        | idle => trivial
        | scan pass =>
            rw [here] at catching
            exact catching
        | unspents pass tipHeight rest =>
            rw [here] at catching
            exact catching
        | outputs pass txids rest =>
            rw [here] at catching
            exact catching
  | nothing here unwatched => exact absurd rfl within
  | started here watched => exact absurd rfl within
  | failed action begins error => trivial
  | stopped => trivial
  | scanned pass here scan truthful result found =>
      rw [here] at catching
      exact catching.elim
  | passedUnspent now id pass tipHeight unspent rest here unknown =>
      rw [here] at catching
      obtain ⟨sameAddresses, -, within, -, -⟩ := catching
      have watched := (found.found unspent (within unspent List.mem_cons_self)).2.1
      rw [← sameAddresses] at watched
      exact absurd unknown (Pass.byAddress_known watched)
  | recordedUnspent now id pass tipHeight unspent rest here address known stored after observed =>
      rw [here] at catching
      obtain ⟨sameAddresses, rfl, within, done, only⟩ := catching
      have member := within unspent List.mem_cons_self
      refine ⟨sameAddresses, rfl, fun other there => within other (List.mem_cons_of_mem _ there),
        ?_, ?_⟩
      · intro other there
        have kept : CountStored watch.db result.tipHeight other →
            CountStored after result.tipHeight other := fun held =>
          held.observed sound.keys observed fun same => by
            show scanConfirmations _ unspent.height = _
            rw [found.height_eq member there (Prod.mk.inj same).1]
        rcases done other there with waits | ⟨held, seen⟩
        · rcases List.mem_cons.mp waits with rfl | later
          · obtain ⟨row, count, looked⟩ :=
              findOutput_observed sound.keys observed other.txid (asI32 other.vout)
            refine .inr ⟨⟨row, looked.trans (if_pos rfl), count⟩, ?_⟩
            exact List.mem_cons_self
          · exact .inl later
        · exact .inr ⟨kept held, List.mem_cons_of_mem _ seen⟩
      · intro output seen
        rcases List.mem_cons.mp seen with rfl | before
        · exact ⟨unspent, member, rfl⟩
        · exact only output before
  | listed pass tipHeight here txids =>
      rw [here] at catching
      obtain ⟨sameAddresses, -, -, done, only⟩ := catching
      refine ⟨sameAddresses, fun unspent member => ?_, only⟩
      exact (done unspent member).resolve_left List.not_mem_nil
  | left answer pass txid txids here fetched =>
      rw [here] at catching
      exact catching
  | fetched answer pass txid txids here truthful outputs fetched =>
      rw [here] at catching
      exact catching
  | passedOutput now id pass txids out rest here passes =>
      rw [here] at catching
      exact catching
  | recordedOutput now id pass txids out rest here address known unseen stored after observed =>
      have phase := sound.phase
      rw [here] at catching phase
      obtain ⟨sameAddresses, done, only⟩ := catching
      obtain ⟨pays, -⟩ := phase.2 out List.mem_cons_self
      refine ⟨sameAddresses, fun unspent member => ?_, only⟩
      obtain ⟨held, seen⟩ := done unspent member
      refine ⟨held.observed sound.keys observed fun same => ?_, seen⟩
      have key := found.vout_eq member pays same
      exact absurd (key ▸ seen) unseen
  | finished pass here => trivial

end Scan

/-! ## A whole pass -/

section Run

variable {txs : Transactions} {watch last : Watch} {actions : List WatchAction}

/-- A pass that ended stays ended until the next one starts. -/
theorem idle_stays {next : Watch} {action : WatchAction} (here : watch.phase = .idle)
    (within : action ≠ .start) (step : WatchStep txs watch action next) : next.phase = .idle := by
  cases step with
  | chain event later moved => exact here
  | created now id projectId address label requiredConfirmations => exact here
  | nothing _ unwatched => exact absurd rfl within
  | started _ watched => exact absurd rfl within
  | failed action begins error => rfl
  | stopped => rfl
  | finished pass there => rfl
  | scanned pass there scan truthful result found => cases here.symm.trans there
  | passedUnspent now id pass tipHeight unspent rest there unknown => cases here.symm.trans there
  | recordedUnspent now id pass tipHeight unspent rest there address known stored after observed =>
      cases here.symm.trans there
  | listed pass tipHeight there txids => cases here.symm.trans there
  | left answer pass txid txids there fetched => cases here.symm.trans there
  | fetched answer pass txid txids there truthful outputs fetched => cases here.symm.trans there
  | passedOutput now id pass txids out rest there passes => cases here.symm.trans there
  | recordedOutput now id pass txids out rest there address known unseen stored after observed =>
      cases here.symm.trans there

theorem idle_stays_run (here : watch.phase = .idle) (whole : ∀ action ∈ actions, action ≠ .start)
    (ran : (watcher txs).run watch actions = some last) : last.phase = .idle := by
  induction actions generalizing watch with
  | nil =>
      cases ran
      exact here
  | cons action rest ih =>
      simp only [Machine.run] at ran
      split at ran
      · cases ran
      · rename_i next step
        exact ih (idle_stays here (whole action List.mem_cons_self) (watchStep step))
          (fun other member => whole other (List.mem_cons_of_mem _ member)) ran

/-- A step before the scan: the chain moves, an address is created, the scan is answered, or the
pass ends. -/
theorem scan_step {next : Watch} {action : WatchAction} {pass : Pass}
    (here : watch.phase = .scan pass) (within : action ≠ .start)
    (step : WatchStep txs watch action next) :
    next.phase = .scan pass ∨ next.phase = .idle ∨ ∃ scan result,
      action = .scanned (.ok scan) ∧ watch.chain.AnswersScan txs pass.names (.ok scan) ∧
      scanAddresses pass.names (.ok scan) = .ok result ∧
      next = { watch with phase := .unspents pass result.tipHeight result.unspents } := by
  cases step with
  | chain event later moved => exact .inl here
  | created now id projectId address label requiredConfirmations => exact .inl here
  | nothing _ unwatched => exact absurd rfl within
  | started _ watched => exact absurd rfl within
  | failed action begins error => exact .inr (.inl rfl)
  | stopped => exact .inr (.inl rfl)
  | finished pass there => exact .inr (.inl rfl)
  | scanned other there scan truthful result found =>
      cases here.symm.trans there
      exact .inr (.inr ⟨scan, result, rfl, truthful, found, rfl⟩)
  | passedUnspent now id pass tipHeight unspent rest there unknown => cases here.symm.trans there
  | recordedUnspent now id pass tipHeight unspent rest there address known stored after observed =>
      cases here.symm.trans there
  | listed pass tipHeight there txids => cases here.symm.trans there
  | left answer pass txid txids there fetched => cases here.symm.trans there
  | fetched answer pass txid txids there truthful outputs fetched => cases here.symm.trans there
  | passedOutput now id pass txids out rest there passes => cases here.symm.trans there
  | recordedOutput now id pass txids out rest there address known unseen stored after observed =>
      cases here.symm.trans there

/-- The scan of a pass that goes on after it. -/
structure ScanIn (txs : Transactions) (watch : Watch) (pass : Pass) (actions : List WatchAction)
    (last : Watch) where
  before : List WatchAction
  scan : RawScan
  after : List WatchAction
  split : actions = before ++ .scanned (.ok scan) :: after
  scanned : Watch
  waited : (watcher txs).run watch before = some scanned
  waiting : scanned.phase = .scan pass
  truthful : scanned.chain.AnswersScan txs pass.names (.ok scan)
  result : ScanResult
  found : scanAddresses pass.names (.ok scan) = .ok result
  next : Watch
  moved : (watcher txs).step scanned (.scanned (.ok scan)) = some next
  opens : next.phase = .unspents pass result.tipHeight result.unspents
  wentOn : (watcher txs).run next after = some last

/-- **A pass that is over its scan has scanned.** -/
theorem exists_scanIn {pass : Pass} (here : watch.phase = .scan pass)
    (whole : ∀ action ∈ actions, action ≠ .start)
    (ran : (watcher txs).run watch actions = some last) (going : last.phase ≠ .idle)
    (past : last.phase ≠ .scan pass) : Nonempty (ScanIn txs watch pass actions last) := by
  induction actions generalizing watch with
  | nil =>
      cases ran
      exact absurd here past
  | cons action rest ih =>
      simp only [Machine.run] at ran
      split at ran
      · cases ran
      · rename_i next step
        have later : ∀ other ∈ rest, other ≠ WatchAction.start :=
          fun other member => whole other (List.mem_cons_of_mem _ member)
        rcases scan_step here (whole action List.mem_cons_self) (watchStep step) with
          still | ended | ⟨scan, result, rfl, truthful, found, rfl⟩
        · obtain ⟨scanIn⟩ := ih still later ran
          exact ⟨{ scanIn with
            before := action :: scanIn.before
            split := congrArg (action :: ·) scanIn.split
            waited := (Machine.run_cons _ _ step).trans scanIn.waited }⟩
        · exact absurd (idle_stays_run ended later ran) going
        · exact ⟨⟨[], scan, rest, rfl, watch, rfl, here, truthful, result, found, _, step, rfl,
            ran⟩⟩

/-- A pass ends when nothing is left of the mempool. -/
theorem finish_step {next : Watch} (step : (watcher txs).step watch .finish = some next) :
    ∃ pass, watch.phase = .outputs pass [] [] ∧
      next = { watch with phase := .idle, results := .ok pass.changed :: watch.results } := by
  simp only [watcher, Watch.step] at step
  split at step
  · obtain ⟨scanned, acted, rfl⟩ := Option.map_eq_some_iff.mp step
    cases here : watch.phase with
    | idle =>
        rw [here] at acted
        cases acted
    | scan pass =>
        rw [here] at acted
        cases acted
    | unspents pass tipHeight rest =>
        rw [here] at acted
        cases rest <;> cases acted
    | outputs pass txids rest =>
        rw [here] at acted
        cases txids <;> cases rest <;> cases acted
        exact ⟨pass, rfl, rfl⟩
  · cases step

/-- An address that is stored stays stored. -/
theorem onchainAddresses_step {next : Watch} {action : WatchAction}
    (step : WatchStep txs watch action next) :
    ∀ row ∈ watch.db.onchainAddresses, row ∈ next.db.onchainAddresses := by
  cases step with
  | created now id projectId address label requiredConfirmations =>
      rcases createAddress_cases now id projectId address label requiredConfirmations watch.db with
        same | ⟨fresh, made⟩
      · rw [same]
        exact fun row member => member
      · rw [made]
        exact fun row member => List.mem_append_left _ member
  | recordedUnspent now id pass tipHeight unspent rest here address known stored after observed =>
      exact fun row member => (onchainAddresses_observed observed).symm ▸ member
  | recordedOutput now id pass txids out rest here address known unseen stored after observed =>
      exact fun row member => (onchainAddresses_observed observed).symm ▸ member
  | _ => exact fun row member => member

theorem onchainAddresses_lasts (reached : (watcher txs).Reachable watch)
    (leads : (watcher txs).Leads watch last) :
    ∀ row ∈ watch.db.onchainAddresses, row ∈ last.db.onchainAddresses := by
  refine Machine.Leads.induct (fun first second : Watch =>
    ∀ row ∈ first.db.onchainAddresses, row ∈ second.db.onchainAddresses) ?_ ?_ ?_ reached leads
  · exact fun _ row member => member
  · exact fun _ _ _ kept later row member => later row (kept row member)
  · exact fun _ _ _ _ step => onchainAddresses_step (watchStep step)

/-- The output is stored as a deposit of the address, with its amount, and with the count and
the status that its block has under the tip. -/
def OutputCredited (db : Db) (tipHeight height : ℕ) (txid : String) (out : RawVout)
    (address : AddressRecord) : Prop :=
  ∃ row amountSat, db.findOutput txid (asI32 out.n) = some row ∧
    btcToSats out.value = .ok amountSat ∧ row.amountSat = amountSat ∧
    row.addressId = address.id ∧ row.projectId = address.projectId ∧
    row.confirmations + height = tipHeight + 1 ∧
    row.status = .fromConfirmations (tipHeight + 1 - height)
      (max address.requiredConfirmations 1).toNat

/-- Every output that is mined and unspent, and that pays one of the addresses, is credited. -/
def CaughtUp (txs : Transactions) (addresses : List AddressRecord) (chain : Chain) (db : Db) :
    Prop :=
  ∀ txid height, chain.minedAt txid = some height → ∀ out ∈ txs.vout txid,
    (txid, out.n) ∉ chain.spent → ∀ address ∈ addresses, out.address = some address.address →
      OutputCredited db chain.height height txid out address

/-- What is stored of an output that pays an address is a deposit of the address. -/
theorem credited_of_stored (reached : (watcher txs).Reachable watch) {tipHeight height : ℕ}
    {txid : String} {out : RawVout} (there : out ∈ txs.vout txid) {address : AddressRecord}
    (member : address ∈ watch.db.onchainAddresses) (paid : out.address = some address.address)
    {row : OnchainTransactionRecord}
    (found : watch.db.findOutput txid (asI32 out.n) = some row)
    (count : row.confirmations + height = tipHeight + 1) :
    OutputCredited watch.db tipHeight height txid out address := by
  have sound := watch_sound reached
  obtain ⟨stored, key⟩ := lookup_some found
  obtain ⟨sameTxid, sameVout⟩ := Prod.mk.inj key
  have pays : txs.Pays txid out.n address.address := ⟨out, there, rfl, paid⟩
  have same : ∀ other ∈ watch.db.onchainAddresses, ∀ n, asI32 n = row.vout →
      txs.Pays row.txid n other.address → n = out.n ∧ other = address := by
    intro other otherMember n index otherPays
    have sameIndex : n = out.n :=
      asI32_injective otherPays.small pays.small (index.trans sameVout)
    rw [sameTxid, sameIndex] at otherPays
    exact ⟨sameIndex, sound.addresses.unique.eq_of_key otherMember member
      (otherPays.unique pays)⟩
  obtain ⟨credited, creditedMember, n, amountSat, index, sats, amount, id, project⟩ :=
    deposits_genuine reached stored
  obtain ⟨rfl, rfl⟩ := same credited creditedMember n index sats.pays
  obtain ⟨other, otherThere, otherIndex, -, value⟩ := sats
  rw [sameTxid] at otherThere
  cases (txs.distinct txid).eq_of_key otherThere there otherIndex
  obtain ⟨tracked, known, n, index, trackedPays, status⟩ := (sound.tracked row stored).status
  obtain ⟨-, rfl⟩ := same tracked known n index trackedPays
  refine ⟨row, amountSat, found, value, amount, id, project, count, ?_⟩
  rw [status, show row.confirmations.toNat = tipHeight + 1 - height by omega]

/-- **A pass catches up with the chain.** On a chain that only grows, when a pass comes to its
end, whatever was mined and whatever the API did between its calls, every output that was mined
and unspent when it scanned, and that pays an address that was stored when it started, is a
deposit of this address: with the amount of the output and with the count and the status of its
block under the tip of the scan. -/
theorem pass_catches_up {before after : Watch} (reached : (watcher txs).Reachable before)
    (whole : ∀ action ∈ actions, action ≠ .start)
    (ran : (watcher txs).run before (.start :: actions ++ [.finish]) = some after) :
    ∃ earlier scan later scanned, actions = earlier ++ .scanned (.ok scan) :: later ∧
      (watcher txs).run before (.start :: earlier) = some scanned ∧
      CaughtUp txs before.db.onchainAddresses scanned.chain after.db := by
  rw [Machine.run_append] at ran
  obtain ⟨ending, went, ended⟩ := Option.bind_eq_some_iff.mp ran
  simp only [Machine.run] at went ended
  split at ended
  · cases ended
  · rename_i final finish
    cases ended
    obtain ⟨last, passed, rfl⟩ := finish_step finish
    split at went
    · cases went
    · rename_i started start
      have startReached := reached.next start
      have going : ending.phase ≠ .idle := fun idle => by cases idle.symm.trans passed
      cases watchStep start with
      | failed _ begins error => exact absurd rfl begins
      | nothing here unwatched => exact absurd (idle_stays_run rfl whole went) going
      | started here watched =>
          obtain ⟨scanIn⟩ := exists_scanIn rfl whole went going
            fun scans => by cases scans.symm.trans passed
          have scannedReached := startReached.leads (Machine.leads_of_run scanIn.waited)
          have sound := watch_sound scannedReached
          have holds := sound.phase
          rw [scanIn.waiting] at holds
          have plain : ∀ name ∈ before.db.watchedAddresses.map fun row => row.address,
              ')' ∉ name.toList := by
            intro name listed
            obtain ⟨row, known, rfl⟩ := List.mem_map.mp listed
            exact sound.addresses.plain row (holds row known)
          have found := scanFound sound.chain plain scanIn.truthful scanIn.found
          have catching : ending.phase.Catching before.db.watchedAddresses scanIn.result
              ending.db := by
            have within : (watcher txs).StepsMeet (fun _ action => action ≠ WatchAction.start)
                scanIn.next scanIn.after := by
              refine Machine.stepsMeet_of_forall (fun action member _ => whole action ?_) _
              rw [scanIn.split]
              exact List.mem_append_right _ (List.mem_cons_of_mem _ member)
            refine within.keeps (fun watch : Watch =>
                watch.phase.Catching before.db.watchedAddresses scanIn.result watch.db)
              (fun watch action next reached held within step =>
                held.next found (watch_sound reached) (watchStep step) within)
              (scannedReached.next scanIn.moved) ?_ scanIn.wentOn
            rw [scanIn.opens]
            refine ⟨rfl, rfl, fun _ member => member, fun _ member => .inl member, ?_⟩
            exact fun _ member => absurd member List.not_mem_nil
          rw [passed] at catching
          have leads := ((Machine.Leads.single start).trans (Machine.leads_of_run went)).snoc finish
          refine ⟨scanIn.before, scanIn.scan, scanIn.after, scanIn.scanned, scanIn.split,
            (Machine.run_cons _ _ start).trans scanIn.waited, ?_⟩
          intro txid height mined out there unspent address member paid
          have named : address.address ∈ before.db.watchedAddresses.map fun row => row.address :=
            List.mem_map.mpr ⟨address, mem_watchedAddresses.mpr member, rfl⟩
          obtain ⟨hit, listed, rfl, index, -⟩ :=
            found.complete txid height mined out there address.address named paid unspent
          obtain ⟨row, looked, count⟩ := (catching.2.1 hit listed).1
          have block := (found.found hit listed).1
          cases mined.symm.trans block
          rw [index] at looked
          obtain ⟨positive, below⟩ := sound.chain.minedAt_le mined
          refine credited_of_stored (reached.leads leads) there
            (onchainAddresses_lasts reached leads address member) paid looked ?_
          · rw [count, found.tip]
            exact scanConfirmations_eq sound.chain.bounded positive below

/-- A block is mined when the pass has begun, and the scan finds the deposit in it. -/
theorem pass_catches_up_mined : ∃ before after : Watch,
    (watcher oneTransaction).run ⟨{}, emptyChain, .idle, []⟩ seenActions = some before ∧
    (watcher oneTransaction).run before
      (.start :: (minedActions.tail ++ [.listed (.ok [])]) ++ [.finish]) = some after ∧
    ∃ earlier scan later scanned,
      minedActions.tail ++ [.listed (.ok [])] = earlier ++ .scanned (.ok scan) :: later ∧
      (watcher oneTransaction).run before (.start :: earlier) = some scanned ∧
      CaughtUp oneTransaction before.db.onchainAddresses scanned.chain after.db := by
  obtain ⟨before, seen, after, ran⟩ : ∃ before,
      (watcher oneTransaction).run ⟨{}, emptyChain, .idle, []⟩ seenActions = some before ∧
      ∃ after, (watcher oneTransaction).run before
        (.start :: (minedActions.tail ++ [.listed (.ok [])]) ++ [.finish]) = some after :=
    ⟨_, rfl, _, rfl⟩
  refine ⟨before, after, seen, ran,
    pass_catches_up (Machine.reachable_of_run emptyChain_initial seen) ?_ ran⟩
  intro action member
  simp only [minedActions, List.tail_cons, List.cons_append, List.nil_append, List.mem_cons,
    List.not_mem_nil, or_false] at member
  rcases member with rfl | rfl | rfl | rfl <;> exact fun same => by cases same

end Run

/-! ## The same answers again -/

/-- What the node answers while nothing new reaches it. -/
structure NodeView where
  scan : RawScan
  listing : List String
  transaction : String → Except RpcError RawTx

/-- An action of one pass that gets this answer. The chain may move unseen, and no address is
created. -/
def WatchAction.AnsweredBy (view : NodeView) (phase : WatchPhase) : WatchAction → Prop
  | .scanned answer => answer = .ok view.scan
  | .listed answer => answer = .ok view.listing
  | .fetched answer => ∀ txid ∈ phase.fetching, answer = view.transaction txid
  | .start | .createAddress _ _ _ _ _ _ => False
  | .chain _ | .record _ _ | .finish | .stop => True

/-- The mempool shows the output. -/
def NodeView.Shows (view : NodeView) (out : MempoolOutput) : Prop :=
  ∃ txid ∈ view.listing.take maxMempoolTxs, ∃ outputs,
    mempoolOutputs txid (view.transaction txid) = .ok (some outputs) ∧ out ∈ outputs

/-- Nothing is left to write of an output of the mempool. -/
def Pass.Settled (pass : Pass) (db : Db) (out : MempoolOutput) : Prop :=
  pass.byAddress out.address = none ∨ (out.txid, out.vout) ∈ pass.seenConfirmed ∨
    ∃ row, db.findOutput out.txid (asI32 out.vout) = some row ∧ row.confirmations = 0

/-- What a pass has done of the mempool. -/
def WatchPhase.Listing (view : NodeView) (db : Db) : WatchPhase → Prop
  | .outputs pass txids rest => ∀ txid ∈ view.listing.take maxMempoolTxs, txid ∈ txids ∨
      ∀ outputs, mempoolOutputs txid (view.transaction txid) = .ok (some outputs) →
        ∀ out ∈ outputs, out ∈ rest ∨ pass.Settled db out
  | _ => True

theorem Pass.Settled.observed {now : DateTime} {id : String} {pass : Pass} {db after : Db}
    {out other : MempoolOutput} {address : AddressRecord}
    {stored : Option OnchainTransactionRecord} (settled : pass.Settled db other)
    (keys : db.DepositKeys)
    (observed : Observed now id (out.observation address) db (.ok stored) after) :
    (pass.count stored).Settled after other := by
  rcases settled with unknown | seen | ⟨row, found, zero⟩
  · exact .inl unknown
  · exact .inr (.inl seen)
  · refine .inr (.inr ?_)
    obtain ⟨written, same, looked⟩ :=
      findOutput_observed keys observed other.txid (asI32 other.vout)
    split at looked
    · exact ⟨written, looked, same⟩
    · exact ⟨row, looked.trans found, zero⟩

/-- **A step of a pass settles what it leaves of the mempool.** -/
theorem WatchPhase.Listing.next {txs : Transactions} {view : NodeView} {watch next : Watch}
    {action : WatchAction} (keys : watch.db.DepositKeys) (step : WatchStep txs watch action next)
    (answered : action.AnsweredBy view watch.phase)
    (listing : watch.phase.Listing view watch.db) : next.phase.Listing view next.db := by
  cases step with
  | chain event later moved => exact listing
  | created now id projectId address label requiredConfirmations => exact answered.elim
  | nothing here unwatched => trivial
  | started here watched => trivial
  | failed action begins error => trivial
  | stopped => trivial
  | scanned pass here scan truthful result found => trivial
  | passedUnspent now id pass tipHeight unspent rest here unknown => trivial
  | recordedUnspent now id pass tipHeight unspent rest here address known stored after observed =>
      trivial
  | listed pass tipHeight here txids =>
      cases answered
      exact fun txid member => .inl member
  | left answer pass txid txids here fetched =>
      rw [here] at listing answered
      cases answered txid rfl
      intro other member
      rcases listing other member with waits | done
      · rcases List.mem_cons.mp waits with rfl | later
        · refine .inr fun outputs shown => ?_
          cases fetched.symm.trans shown
        · exact .inl later
      · exact .inr done
  | fetched answer pass txid txids here truthful outputs fetched =>
      rw [here] at listing answered
      cases answered txid rfl
      intro other member
      rcases listing other member with waits | done
      · rcases List.mem_cons.mp waits with rfl | later
        · refine .inr fun found shown out there => .inl ?_
          cases fetched.symm.trans shown
          exact there
        · exact .inl later
      · refine .inr fun found shown out there => .inr ?_
        exact (done found shown out there).resolve_left List.not_mem_nil
  | passedOutput now id pass txids out rest here passes =>
      rw [here] at listing
      intro other member
      refine (listing other member).imp_right fun done found shown one there => ?_
      rcases done found shown one there with waits | settled
      · rcases List.mem_cons.mp waits with rfl | later
        · exact .inr (passes.imp_right .inl)
        · exact .inl later
      · exact .inr settled
  | recordedOutput now id pass txids out rest here address known unseen stored after observed =>
      rw [here] at listing
      intro other member
      refine (listing other member).imp_right fun done found shown one there => ?_
      rcases done found shown one there with waits | settled
      · rcases List.mem_cons.mp waits with rfl | later
        · obtain ⟨row, zero, looked⟩ :=
            findOutput_observed keys observed one.txid (asI32 one.vout)
          exact .inr (.inr (.inr ⟨row, looked.trans (if_pos rfl), zero⟩))
        · exact .inl later
      · exact .inr (settled.observed keys observed)
  | finished pass here => trivial

section Settle

variable {txs : Transactions} {view : NodeView} {addresses : List AddressRecord}
  {watch later : Watch} {action : WatchAction}

/-- A pass creates no address. -/
theorem watchedAddresses_step (step : WatchStep txs watch action later)
    (answered : action.AnsweredBy view watch.phase) :
    later.db.watchedAddresses = watch.db.watchedAddresses := by
  have kept : later.db.onchainAddresses = watch.db.onchainAddresses := by
    cases step with
    | created now id projectId address label requiredConfirmations => exact answered.elim
    | recordedUnspent now id pass tipHeight unspent rest here address known stored after observed =>
        exact onchainAddresses_observed observed
    | recordedOutput now id pass txids out rest here address known unseen stored after observed =>
        exact onchainAddresses_observed observed
    | _ => rfl
  rw [watchedAddresses, kept, watchedAddresses]

theorem ne_start_of_answeredBy {phase : WatchPhase} (answered : action.AnsweredBy view phase) :
    action ≠ .start := by
  rintro rfl
  exact answered

/-- What a pass has done of its scan and of the mempool. -/
structure Covering (txs : Transactions) (view : NodeView) (addresses : List AddressRecord)
    (result : ScanResult) (watch : Watch) : Prop where
  scan : scanAddresses (addresses.map fun row => row.address) (.ok view.scan) = .ok result
  found : ∃ chain, ScanFound txs chain (addresses.map fun row => row.address) result
  catching : watch.phase.Catching addresses result watch.db
  listing : watch.phase.Listing view watch.db

/-- Where a pass over the addresses stands. -/
def Watch.Covers (txs : Transactions) (view : NodeView) (addresses : List AddressRecord)
    (watch : Watch) : Prop :=
  watch.phase = .idle ∨ watch.db.watchedAddresses = addresses ∧
    (watch.phase = .scan ⟨addresses, [], 0⟩ ∨ ∃ result, Covering txs view addresses result watch)

theorem Watch.Covers.next (covers : watch.Covers txs view addresses) (sound : watch.Sound txs)
    (step : WatchStep txs watch action later) (answered : action.AnsweredBy view watch.phase) :
    later.Covers txs view addresses := by
  have within := ne_start_of_answeredBy answered
  rcases covers with idle | ⟨watched, scans | ⟨result, covering⟩⟩
  · exact .inl (idle_stays idle within step)
  · have same := (watchedAddresses_step step answered).trans watched
    rcases scan_step scans within step with
      still | ended | ⟨scan, result, rfl, truthful, found, rfl⟩
    · exact .inr ⟨same, .inl still⟩
    · exact .inl ended
    · cases answered
      have holds := sound.phase
      rw [scans] at holds
      have plain : ∀ name ∈ addresses.map fun row => row.address, ')' ∉ name.toList := by
        intro name listed
        obtain ⟨row, known, rfl⟩ := List.mem_map.mp listed
        exact sound.addresses.plain row (holds row known)
      refine .inr ⟨same, .inr ⟨result, found, ⟨_, scanFound sound.chain plain truthful found⟩,
        ⟨rfl, rfl, fun _ member => member, fun _ member => .inl member, ?_⟩, trivial⟩⟩
      exact fun _ member => absurd member List.not_mem_nil
  · have same := (watchedAddresses_step step answered).trans watched
    obtain ⟨scan, ⟨chain, found⟩, catching, listing⟩ := covering
    exact .inr ⟨same, .inr ⟨result, scan, ⟨chain, found⟩, catching.next found sound step within,
      listing.next sound.keys step answered⟩⟩

/-- There is nothing that a pass with these answers could write. -/
structure AllSettled (view : NodeView) (addresses : List AddressRecord) (result : ScanResult)
    (db : Db) : Prop where
  watched : db.watchedAddresses = addresses
  scan : scanAddresses (addresses.map fun row => row.address) (.ok view.scan) = .ok result
  confirmed : ∀ unspent ∈ result.unspents, CountStored db result.tipHeight unspent
  unconfirmed : ∀ out, view.Shows out →
    (∀ pass : Pass, pass.addresses = addresses → pass.byAddress out.address = none) ∨
      (∃ unspent ∈ result.unspents, (unspent.txid, unspent.vout) = (out.txid, out.vout)) ∨
      ∃ row, db.findOutput out.txid (asI32 out.vout) = some row ∧ row.confirmations = 0

/-- A pass that has written nothing so far. -/
def WatchPhase.Unwritten (view : NodeView) (addresses : List AddressRecord)
    (result : ScanResult) : WatchPhase → Prop
  | .idle => False
  | .scan pass => pass = ⟨addresses, [], 0⟩
  | .unspents pass tipHeight rest => pass.addresses = addresses ∧ pass.changed = 0 ∧
      tipHeight = result.tipHeight ∧ (∀ unspent ∈ rest, unspent ∈ result.unspents) ∧
      ∀ unspent ∈ result.unspents,
        unspent ∈ rest ∨ (unspent.txid, unspent.vout) ∈ pass.seenConfirmed
  | .outputs pass txids rest => pass.addresses = addresses ∧ pass.changed = 0 ∧
      (∀ unspent ∈ result.unspents, (unspent.txid, unspent.vout) ∈ pass.seenConfirmed) ∧
      (∀ txid ∈ txids, txid ∈ view.listing.take maxMempoolTxs) ∧ ∀ out ∈ rest, view.Shows out

/-- The database and the results are as they were. -/
def Watch.Quiet (view : NodeView) (addresses : List AddressRecord) (result : ScanResult)
    (before watch : Watch) : Prop :=
  watch.phase = .idle ∨ watch.db = before.db ∧ watch.results = before.results ∧
    watch.phase.Unwritten view addresses result

/-- **A step of a pass that has nothing to write writes nothing.** -/
theorem Watch.Quiet.next {result : ScanResult} {before : Watch}
    (settled : AllSettled view addresses result before.db)
    (quiet : Watch.Quiet view addresses result before watch)
    (step : WatchStep txs watch action later) (answered : action.AnsweredBy view watch.phase) :
    Watch.Quiet view addresses result before later := by
  rcases quiet with idle | ⟨db, results, unwritten⟩
  · exact .inl (idle_stays idle (ne_start_of_answeredBy answered) step)
  cases step with
  | chain event later moved => exact .inr ⟨db, results, unwritten⟩
  | created now id projectId address label requiredConfirmations => exact answered.elim
  | nothing here unwatched => exact answered.elim
  | started here watched => exact answered.elim
  | failed action begins error => exact .inl rfl
  | stopped => exact .inl rfl
  | finished pass here => exact .inl rfl
  | scanned pass here scan truthful other found =>
      rw [here] at unwritten
      cases answered
      cases unwritten
      cases settled.scan.symm.trans found
      exact .inr ⟨db, results, rfl, rfl, rfl, fun _ member => member, fun _ member => .inl member⟩
  | passedUnspent now id pass tipHeight unspent rest here unknown =>
      rw [here] at unwritten
      obtain ⟨rfl, -, -, within, -⟩ := unwritten
      obtain ⟨scan, -, -, all⟩ := scanAddresses_eq_ok settled.scan
      obtain ⟨raw, -, -, -, -, named, -⟩ := all unspent (within unspent List.mem_cons_self)
      exact absurd unknown (Pass.byAddress_known named)
  | recordedUnspent now id pass tipHeight unspent rest here address known stored after observed =>
      rw [here] at unwritten
      obtain ⟨rfl, unchanged, rfl, within, seen⟩ := unwritten
      obtain ⟨row, found, count⟩ := settled.confirmed unspent (within unspent List.mem_cons_self)
      rw [← db] at found
      obtain ⟨rfl, rfl⟩ := observed_unchanged observed found count
      refine .inr ⟨db, results, rfl, unchanged, rfl,
        fun other member => within other (List.mem_cons_of_mem _ member), fun other member => ?_⟩
      rcases seen other member with waits | already
      · rcases List.mem_cons.mp waits with rfl | later
        · exact .inr List.mem_cons_self
        · exact .inl later
      · exact .inr (List.mem_cons_of_mem _ already)
  | listed pass tipHeight here txids =>
      rw [here] at unwritten
      cases answered
      obtain ⟨rfl, unchanged, -, -, seen⟩ := unwritten
      refine .inr ⟨db, results, rfl, unchanged, fun unspent member => ?_,
        fun _ member => member, ?_⟩
      · exact (seen unspent member).resolve_left List.not_mem_nil
      · exact fun _ member => absurd member List.not_mem_nil
  | left answer pass txid txids here fetched =>
      rw [here] at unwritten
      obtain ⟨rfl, unchanged, seen, listed, -⟩ := unwritten
      refine .inr ⟨db, results, rfl, unchanged, seen,
        fun other member => listed other (List.mem_cons_of_mem _ member), ?_⟩
      exact fun _ member => absurd member List.not_mem_nil
  | fetched answer pass txid txids here truthful outputs fetched =>
      rw [here] at unwritten answered
      obtain ⟨rfl, unchanged, seen, listed, -⟩ := unwritten
      cases answered txid rfl
      refine .inr ⟨db, results, rfl, unchanged, seen,
        fun other member => listed other (List.mem_cons_of_mem _ member), fun out member => ?_⟩
      exact ⟨txid, listed txid List.mem_cons_self, outputs, fetched, member⟩
  | passedOutput now id pass txids out rest here passes =>
      rw [here] at unwritten
      obtain ⟨rfl, unchanged, seen, listed, shown⟩ := unwritten
      exact .inr ⟨db, results, rfl, unchanged, seen, listed,
        fun other member => shown other (List.mem_cons_of_mem _ member)⟩
  | recordedOutput now id pass txids out rest here address known unseen stored after observed =>
      rw [here] at unwritten
      obtain ⟨rfl, unchanged, seen, listed, shown⟩ := unwritten
      rcases settled.unconfirmed out (shown out List.mem_cons_self) with
        unknown | ⟨unspent, member, key⟩ | ⟨row, found, zero⟩
      · cases (unknown pass rfl).symm.trans known
      · exact absurd (key ▸ seen unspent member) unseen
      · rw [← db] at found
        obtain ⟨rfl, rfl⟩ := observed_unchanged observed found zero
        exact .inr ⟨db, results, rfl, unchanged, seen, listed,
          fun other member => shown other (List.mem_cons_of_mem _ member)⟩

end Settle

end Safrod
