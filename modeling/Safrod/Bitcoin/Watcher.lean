import Safrod.Bitcoin.Chain
import Safrod.Storage.Deposits

/-!
# The deposit watcher

Passes of `scan_once`, one after the other, while the chain moves and addresses are
created. A pass makes one call of Bitcoin Core or of the storage at a time, and each is
one step; it ends at the first call that fails, and it may be stopped between two calls.
-/

set_option autoImplicit false

namespace Safrod

open Table Db

inductive WatchError where
  | rpc (error : RpcError)
  | storage (error : StorageError)

def maxMempoolTxs : ℕ := 2_000

/-! ## A pass -/

/-- What a pass carries along. -/
structure Pass where
  addresses : List AddressRecord
  seenConfirmed : List (String × ℕ) := []
  changed : ℕ := 0

namespace Pass

def names (pass : Pass) : List String := pass.addresses.map fun row => row.address

/-- The map from addresses to their records, which the last record of an address wins. -/
def byAddress (pass : Pass) (address : String) : Option AddressRecord :=
  lookup (fun row : AddressRecord => row.address) address pass.addresses.reverse

/-- The pass after an observation. -/
def count (pass : Pass) (observed : Option OnchainTransactionRecord) : Pass :=
  { pass with changed := pass.changed + if observed.isSome then 1 else 0 }

def seeing (pass : Pass) (unspent : Unspent) : Pass :=
  { pass with seenConfirmed := (unspent.txid, unspent.vout) :: pass.seenConfirmed }

end Pass

/-- `(tip_height + 1).saturating_sub(height) as i32`. -/
def scanConfirmations (tipHeight height : ℕ) : ℤ := asI32 ((tipHeight + 1) % 2 ^ 32 - height)

def Unspent.observation (unspent : Unspent) (address : AddressRecord) (tipHeight : ℕ) :
    Observation where
  address := address
  txid := unspent.txid
  vout := asI32 unspent.vout
  amountSat := unspent.amountSat
  blockHeight := some (asI32 unspent.height)
  confirmations := scanConfirmations tipHeight unspent.height

def MempoolOutput.observation (out : MempoolOutput) (address : AddressRecord) : Observation where
  address := address
  txid := out.txid
  vout := asI32 out.vout
  amountSat := out.amountSat
  blockHeight := none
  confirmations := 0

/-- Where the watcher stands. -/
inductive WatchPhase where
  | idle
  /-- `watched_addresses` returned some. -/
  | scan (pass : Pass)
  /-- Over the confirmed outputs. -/
  | unspents (pass : Pass) (tipHeight : ℕ) (rest : List Unspent)
  /-- Over the transactions of the mempool, and the outputs of the one that was fetched. -/
  | outputs (pass : Pass) (txids : List String) (rest : List MempoolOutput)

inductive WatchAction where
  | chain (event : ChainEvent)
  | createAddress (now : DateTime) (id projectId address label : String)
      (requiredConfirmations : ℤ)
  | start
  | scanned (answer : Except RpcError RawScan)
  | record (now : DateTime) (id : String)
  | listed (answer : Except RpcError (List String))
  | fetched (answer : Except RpcError RawTx)
  | finish
  | stop

/-- What a step of a pass leaves. -/
structure Scanned where
  db : Db
  phase : WatchPhase
  results : List (Except WatchError ℕ) := []

/-- The pass ends with an error. -/
def failPass (db : Db) (error : WatchError) : Scanned := ⟨db, .idle, [.error error]⟩

/-- A call of `record_observation`, and how the pass goes on after it. -/
def recordIn (now : DateTime) (id : String) (observation : Observation) (db : Db) (pass : Pass)
    (rest : Pass → WatchPhase) : Scanned :=
  match recordObservation now id observation db with
  | (.error error, after) => failPass after (.storage error)
  | (.ok observed, after) => ⟨after, rest (pass.count observed), []⟩

namespace WatchPhase

/-- A step of `scan_once`. -/
def act (db : Db) : WatchPhase → WatchAction → Option Scanned
  | .idle, .start =>
      let addresses := db.watchedAddresses
      if addresses.isEmpty then some ⟨db, .idle, [.ok 0]⟩
      else some ⟨db, .scan ⟨addresses, [], 0⟩, []⟩
  | .scan pass, .scanned answer =>
      match scanAddresses pass.names answer with
      | .error error => some (failPass db (.rpc error))
      | .ok result => some ⟨db, .unspents pass result.tipHeight result.unspents, []⟩
  | .unspents pass tipHeight (unspent :: rest), .record now id =>
      match pass.byAddress unspent.address with
      | none => some ⟨db, .unspents pass tipHeight rest, []⟩
      | some address =>
          some (recordIn now id (unspent.observation address tipHeight) db (pass.seeing unspent)
            fun pass => .unspents pass tipHeight rest)
  | .unspents pass _ [], .listed answer =>
      match answer with
      | .error error => some (failPass db (.rpc error))
      | .ok txids => some ⟨db, .outputs pass (txids.take maxMempoolTxs) [], []⟩
  | .outputs pass (txid :: txids) [], .fetched answer =>
      match mempoolOutputs txid answer with
      | .error error => some (failPass db (.rpc error))
      | .ok none => some ⟨db, .outputs pass txids [], []⟩
      | .ok (some found) => some ⟨db, .outputs pass txids found, []⟩
  | .outputs pass txids (out :: rest), .record now id =>
      match pass.byAddress out.address with
      | none => some ⟨db, .outputs pass txids rest, []⟩
      | some address =>
          if (out.txid, out.vout) ∈ pass.seenConfirmed then
            some ⟨db, .outputs pass txids rest, []⟩
          else
            some (recordIn now id (out.observation address) db pass fun pass =>
              .outputs pass txids rest)
  | .outputs pass [] [], .finish => some ⟨db, .idle, [.ok pass.changed]⟩
  | _, .stop => some ⟨db, .idle, []⟩
  | _, _ => none

/-- The addresses a pass is about to scan for. -/
def scanning : WatchPhase → Option (List String)
  | .scan pass => some pass.names
  | _ => none

/-- The transaction a pass is about to fetch. -/
def fetching : WatchPhase → Option String
  | .outputs _ (txid :: _) _ => some txid
  | _ => none

/-- What Bitcoin Core may answer to the call a pass makes. -/
def Truthful (txs : Transactions) (chain : Chain) (phase : WatchPhase) : WatchAction → Prop
  | .scanned answer => ∀ names ∈ phase.scanning, chain.AnswersScan txs names answer
  | .fetched answer => ∀ txid ∈ phase.fetching, chain.AnswersTransaction txs txid answer
  | _ => True

instance (txs : Transactions) (chain : Chain) (phase : WatchPhase) (action : WatchAction) :
    Decidable (phase.Truthful txs chain action) :=
  match action with
  | .scanned _ => inferInstanceAs (Decidable (∀ names ∈ phase.scanning, _))
  | .fetched _ => inferInstanceAs (Decidable (∀ txid ∈ phase.fetching, _))
  | .chain _ | .createAddress _ _ _ _ _ _ | .start | .record _ _ | .listed _ | .finish | .stop =>
      inferInstanceAs (Decidable True)

end WatchPhase

/-! ## The machine -/

structure Watch where
  db : Db
  chain : Chain
  phase : WatchPhase := .idle
  results : List (Except WatchError ℕ) := []

namespace Watch

/-- The address of a wallet has no bracket. -/
def step (txs : Transactions) (watch : Watch) : WatchAction → Option Watch
  | .chain event => (watch.chain.next event).map fun chain => { watch with chain := chain }
  | .createAddress now id projectId address label requiredConfirmations =>
      if ')' ∈ address.toList then none
      else some { watch with db :=
        (createAddress now id projectId address label requiredConfirmations watch.db).2 }
  | action =>
      if watch.phase.Truthful txs watch.chain action then
        (watch.phase.act watch.db action).map fun scanned => { watch with
          db := scanned.db
          phase := scanned.phase
          results := scanned.results ++ watch.results }
      else none

end Watch

/-- Passes of the watcher on any chain, from a database without addresses. -/
def watcher (txs : Transactions) : Machine Watch WatchAction where
  initial watch := watch.db.onchainTransactions = [] ∧ watch.db.onchainAddresses = [] ∧
    watch.chain.Sound ∧ watch.phase = .idle ∧ watch.results = []
  step := Watch.step txs

end Safrod
