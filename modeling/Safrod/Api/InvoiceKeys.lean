import Safrod.Api.Invoices
import Safrod.Storage.InvoiceHistory

/-!
# Invoices under one key

Two paths lead from a key to the invoice stored under it: the lookup before the node is
asked, and the lookup after the unique index refused a row. The first compares the amount
and the description, the second nothing at all, and neither the expiry nor the metadata.
All requests that succeed return one invoice (`InvoiceService.Sound`); whether each asked
for what the invoice was made for is a condition on the steps (`InvoiceService.Keeps`),
and it is exact (`invoices_idempotent`).
-/

set_option autoImplicit false

namespace Safrod

open Table Db

/-! ## What the keys promise -/

/-- The request was made under the key. -/
def InvoiceReply.Under (projectId key : String) (reply : InvoiceReply) : Prop :=
  reply.call.projectId = projectId ∧ reply.call.idempotencyKey = some key

/-- The request made the invoice of the key. -/
def InvoiceReply.Creates (projectId key : String) (reply : InvoiceReply) : Prop :=
  reply.Under projectId key ∧ ∃ made, reply.answer = .ok ⟨made, true⟩

/-- What a request is owed when another made the invoice of its key. -/
structure InvoiceReply.Honours (creator reply : InvoiceReply) : Prop where
  asked : ∀ given, reply.answer = .ok given → reply.call.asked = creator.call.asked
  reused : reply.stored.isSome → reply.call.asked ≠ creator.call.asked →
    reply.answer = .error StorageError.idempotencyMismatch.toApiError

/-- All requests that succeed return one invoice, which one of them made, and asked for
what it was made for; the others are told that the key is in use. -/
structure IdempotentKey (log : List InvoiceReply) (projectId key : String) : Prop where
  same : ∀ first ∈ log, ∀ second ∈ log, first.Under projectId key → second.Under projectId key →
    ∀ given other, first.answer = .ok given → second.answer = .ok other →
      given.invoice.id = other.invoice.id
  created : ∀ reply ∈ log, reply.Under projectId key → ∀ given, reply.answer = .ok given →
    ∃ creator ∈ log, creator.Creates projectId key
  honoured : ∀ creator ∈ log, creator.Creates projectId key → ∀ reply ∈ log,
    reply.Under projectId key → creator.Honours reply

/-! ## What a step needs -/

/-- A step of a request answers as the key promises, when its invoice was made for `asked`. -/
def InvoiceCall.Agrees (env : InvoiceEnv) (call : InvoiceCall) (asked : InvoiceParams) :
    InvoicePhase → InvoiceAction → Prop
  | .find, .read => call.asked.amountMsat = asked.amountMsat →
      call.asked.description = asked.description → call.asked = asked
  | .callNode, .node (.error _) => call.asked = asked
  | .callNode, .node (.ok created) =>
      env.timestampOpt (asI64 created.expiresAtUnix) = none → call.asked = asked
  | .recover, .read => call.asked = asked
  | _, _ => True

def InvoiceService.Keeps (env : InvoiceEnv) (service : InvoiceService) :
    InvoiceServiceAction → Prop
  | .act slot action =>
      match service.tasks slot with
      | .idle => True
      | .running call phase => ∀ key, call.idempotencyKey = some key → ∀ creator ∈ service.log,
          creator.Creates call.projectId key → call.Agrees env creator.call.asked phase action
  | _ => True

/-! ## The rows of a key -/

/-- The columns that neither a payment nor the expiry of an invoice writes. -/
structure InvoiceTerms where
  id : String
  projectId : String
  idempotencyKey : Option String
  amountMsat : ℤ
  description : String

def InvoiceRow.terms (row : InvoiceRow) : InvoiceTerms where
  id := row.id
  projectId := row.projectId
  idempotencyKey := row.idempotencyKey
  amountMsat := row.amountMsat
  description := row.description

/-- The terms of all invoices. -/
def Db.invoiceTerms (db : Db) : List InvoiceTerms := db.invoices.map InvoiceRow.terms

/-- A row under a key. -/
def InvoiceTerms.Under (projectId key : String) (terms : InvoiceTerms) : Prop :=
  terms.projectId = projectId ∧ terms.idempotencyKey = some key

theorem findInvoiceByIdempotencyKey_some {db : Db} {projectId key : String}
    {existing : InvoiceRecord}
    (found : db.findInvoiceByIdempotencyKey projectId key = some existing) :
    ∃ terms ∈ db.invoiceTerms, terms.Under projectId key ∧ terms.id = existing.id ∧
      terms.amountMsat = existing.amountMsat ∧ terms.description = existing.description := by
  obtain ⟨row, here, same⟩ := Option.map_eq_some_iff.mp found
  have holds := List.find?_some here
  simp only [decide_eq_true_eq] at holds
  refine ⟨row.terms, List.mem_map_of_mem (List.mem_of_find?_eq_some here), holds, ?_⟩
  rw [← same]
  exact ⟨rfl, rfl, rfl⟩

theorem findInvoiceByIdempotencyKey_none {db : Db} {projectId key : String}
    (missing : db.findInvoiceByIdempotencyKey projectId key = none) {terms : InvoiceTerms}
    (member : terms ∈ db.invoiceTerms) : ¬ terms.Under projectId key := by
  obtain ⟨row, here, rfl⟩ := List.mem_map.mp member
  have none_ := List.find?_eq_none.mp (Option.map_eq_none_iff.mp missing) row here
  rw [decide_eq_true_eq] at none_
  exact none_

/-- Neither a payment nor the expiry sweep writes the terms. -/
theorem markInvoicePaid_invoiceTerms (now : DateTime) (dedupeKey paymentHash : String)
    (amount : ℕ) (db : Db) :
    (Db.markInvoicePaid now dedupeKey paymentHash amount db).2.invoiceTerms = db.invoiceTerms := by
  cases call : Db.markInvoicePaid now dedupeKey paymentHash amount db with
  | mk answer after =>
      cases markInvoicePaid_credited call with
      | credited unclaimed row found stillOpen fits =>
          exact map_updateWhere InvoiceRow.terms fun _ => rfl
      | _ => rfl

theorem expireInvoices_invoiceTerms (now : DateTime) (db : Db) :
    (Db.expireInvoices now db).2.invoiceTerms = db.invoiceTerms := by
  rw [expireInvoices_snd, invoiceTerms, afterExpire_invoices]
  exact map_updateWhere InvoiceRow.terms fun _ => rfl

/-! ## The steps of a request -/

/-- The amount of a checked request fits its column. -/
def InvoiceParams.Valid (asked : InvoiceParams) : Prop :=
  0 < asked.amountMsat ∧ asked.amountMsat ≤ i64Max

theorem InvoiceRequest.invoiceAmount_valid {request : InvoiceRequest} {amountMsat : ℕ}
    (accepted : request.invoiceAmount = .ok amountMsat) :
    0 < amountMsat ∧ amountMsat ≤ i64Max := by
  unfold InvoiceRequest.invoiceAmount at accepted
  split at accepted
  · cases accepted
  · cases accepted
  · rename_i sat _ _
    unfold satoshisFromRequest at accepted
    by_cases zero : sat = 0
    · simp only [if_pos zero] at accepted
      cases accepted
    · by_cases large : maxSats < sat
      · simp only [if_neg zero, if_pos large] at accepted
        cases accepted
      · have fits : sat * msatPerSat < 2 ^ 64 := by
          simp only [maxSats, msatPerSat] at *
          omega
        simp only [if_neg zero, if_neg large, toMsat, if_pos fits] at accepted
        cases accepted
        simp only [maxSats, msatPerSat, i64Max] at *
        omega
  · rename_i msat _ _
    by_cases outside : msat = 0 ∨ maxSats < toSatsFloor msat
    · simp only [if_pos outside] at accepted
      cases accepted
    · simp only [if_neg outside] at accepted
      cases accepted
      rw [not_or, not_lt] at outside
      exact ⟨Nat.pos_of_ne_zero outside.1, le_i64Max_of_toSatsFloor_le outside.2⟩

theorem InvoiceRequest.check_valid {env : InvoiceEnv} {request : InvoiceRequest}
    {asked : InvoiceParams} (accepted : request.check env = .ok asked) : asked.Valid := by
  obtain ⟨amountMsat, amount, rest⟩ := Except.exists_of_bind_eq_ok accepted
  obtain ⟨-, rest⟩ := Except.not_and_of_ite_error rest
  obtain ⟨-, rest⟩ := Except.not_and_of_ite_error rest
  obtain ⟨metadata, -, same⟩ := Except.exists_of_bind_eq_ok rest
  cases same
  exact InvoiceRequest.invoiceAmount_valid amount

/-- The insert of a checked request either stores the row or finds it taken. -/
theorem insertInvoice_valid {now : DateTime} {new : NewInvoice} (db : Db)
    (positive : 0 < new.amountMsat) (fits : new.amountMsat ≤ i64Max) :
    Db.insertInvoice now new db =
      if ∃ old ∈ db.invoices, InvoiceClash (openRow now new) old then (.error .conflict, db)
      else (.ok (openRow now new).toInvoiceRecord, db.withInvoice (openRow now new)) := by
  have amount : (openRow now new).amountMsat = new.amountMsat := rfl
  have notNegative : ¬ (new.amountMsat : ℤ) ≤ 0 := by omega
  simp only [Db.insertInvoice, transaction, bind, Except.bind, pure, Except.pure, amount, toI64,
    if_pos fits, if_neg notNegative]
  by_cases clash : ∃ old ∈ db.invoices, InvoiceClash (openRow now new) old
  · simp only [if_pos clash]
  · simp only [if_neg clash]

/-- The exits of a step of a checked request. -/
inductive InvoiceStepped (env : InvoiceEnv) (db : Db) (call : InvoiceCall) :
    InvoicePhase → InvoiceAction → InvoiceOutcome → Prop
  | unkeyed (noKey : call.idempotencyKey = none) :
      InvoiceStepped env db call .find .read ⟨db, .inl .callNode⟩
  | absent (key : String) (keyed : call.idempotencyKey = some key)
      (missing : db.findInvoiceByIdempotencyKey call.projectId key = none) :
      InvoiceStepped env db call .find .read ⟨db, .inl .callNode⟩
  | refused (key : String) (keyed : call.idempotencyKey = some key) (existing : InvoiceRecord)
      (found : db.findInvoiceByIdempotencyKey call.projectId key = some existing)
      (differs : asU64 existing.amountMsat ≠ call.asked.amountMsat ∨
        existing.description ≠ call.asked.description) :
      InvoiceStepped env db call .find .read
        ⟨db, .inr (.error StorageError.idempotencyMismatch.toApiError)⟩
  | returned (key : String) (keyed : call.idempotencyKey = some key) (existing : InvoiceRecord)
      (found : db.findInvoiceByIdempotencyKey call.projectId key = some existing)
      (amount : asU64 existing.amountMsat = call.asked.amountMsat)
      (description : existing.description = call.asked.description) :
      InvoiceStepped env db call .find .read ⟨db, .inr (.ok ⟨existing, false⟩)⟩
  | nodeFailed (error : LightningError) :
      InvoiceStepped env db call .callNode (.node (.error error))
        ⟨db, .inr (.error error.toApiError)⟩
  | noInstant (created : CreatedInvoice)
      (far : env.timestampOpt (asI64 created.expiresAtUnix) = none) :
      InvoiceStepped env db call .callNode (.node (.ok created)) ⟨db, .inr (.error .internal)⟩
  | invoiced (created : CreatedInvoice) (expiresAt : DateTime)
      (instant : env.timestampOpt (asI64 created.expiresAtUnix) = some expiresAt) :
      InvoiceStepped env db call .callNode (.node (.ok created))
        ⟨db, .inl (.store created expiresAt)⟩
  | stored (created : CreatedInvoice) (expiresAt now : DateTime) (id : String)
      (fresh : ∀ old ∈ db.invoices,
        ¬ InvoiceClash (openRow now (call.newInvoice id created expiresAt)) old) :
      InvoiceStepped env db call (.store created expiresAt) (.insert now id)
        ⟨db.withInvoice (openRow now (call.newInvoice id created expiresAt)),
          .inr (.ok ⟨(openRow now (call.newInvoice id created expiresAt)).toInvoiceRecord, true⟩)⟩
  | lost (created : CreatedInvoice) (expiresAt now : DateTime) (id : String)
      (keyed : call.idempotencyKey.isSome) :
      InvoiceStepped env db call (.store created expiresAt) (.insert now id) ⟨db, .inl .recover⟩
  | clashed (created : CreatedInvoice) (expiresAt now : DateTime) (id : String)
      (noKey : call.idempotencyKey = none) :
      InvoiceStepped env db call (.store created expiresAt) (.insert now id)
        ⟨db, .inr (.error StorageError.conflict.toApiError)⟩
  | recovered (existing : InvoiceRecord)
      (found : db.findInvoiceByIdempotencyKey call.projectId (call.idempotencyKey.getD "") =
        some existing) :
      InvoiceStepped env db call .recover .read ⟨db, .inr (.ok ⟨existing, false⟩)⟩
  | vanished
      (missing : db.findInvoiceByIdempotencyKey call.projectId (call.idempotencyKey.getD "") =
        none) :
      InvoiceStepped env db call .recover .read ⟨db, .inr (.error .internal)⟩

theorem InvoiceCall.act_stepped {env : InvoiceEnv} {db : Db} {call : InvoiceCall}
    (valid : call.asked.Valid) {phase : InvoicePhase} {action : InvoiceAction}
    {outcome : InvoiceOutcome} (acted : call.act env db phase action = some outcome) :
    InvoiceStepped env db call phase action outcome := by
  cases phase with
  | find =>
      cases action with
      | read =>
          simp only [InvoiceCall.act] at acted
          cases keyed : call.idempotencyKey with
          | none =>
              rw [keyed] at acted
              cases acted
              exact .unkeyed keyed
          | some key =>
              cases found : db.findInvoiceByIdempotencyKey call.projectId key with
              | none =>
                  simp only [keyed, found] at acted
                  cases acted
                  exact .absent key keyed found
              | some existing =>
                  simp only [keyed, found] at acted
                  split at acted
                  · rename_i differs
                    cases acted
                    exact .refused key keyed existing found differs
                  · rename_i same
                    cases acted
                    rw [not_or, not_not, not_not] at same
                    exact .returned key keyed existing found same.1 same.2
      | _ => cases acted
  | callNode =>
      cases action with
      | node answer =>
          cases answer with
          | error error =>
              cases acted
              exact .nodeFailed error
          | ok created =>
              simp only [InvoiceCall.act] at acted
              cases instant : env.timestampOpt (asI64 created.expiresAtUnix) with
              | none =>
                  rw [instant] at acted
                  cases acted
                  exact .noInstant created instant
              | some expiresAt =>
                  rw [instant] at acted
                  cases acted
                  exact .invoiced created expiresAt instant
      | _ => cases acted
  | store created expiresAt =>
      cases action with
      | insert now id =>
          simp only [InvoiceCall.act] at acted
          rw [insertInvoice_valid db valid.1 valid.2] at acted
          by_cases clash : ∃ old ∈ db.invoices,
              InvoiceClash (openRow now (call.newInvoice id created expiresAt)) old
          · simp only [if_pos clash] at acted
            split at acted
            · rename_i keyed
              cases acted
              exact .lost created expiresAt now id keyed
            · rename_i noKey
              cases acted
              exact .clashed created expiresAt now id (Option.not_isSome_iff_eq_none.mp noKey)
          · simp only [if_neg clash] at acted
            cases acted
            refine .stored created expiresAt now id ?_
            intro old member clashes
            exact clash ⟨old, member, clashes⟩
      | _ => cases acted
  | recover =>
      cases action with
      | read =>
          simp only [InvoiceCall.act] at acted
          split at acted
          · rename_i missing
            cases acted
            exact .vanished missing
          · rename_i existing found
            cases acted
            exact .recovered existing found
      | _ => cases acted

/-! ## What holds in every state -/

structure InvoiceService.Sound (service : InvoiceService) : Prop where
  valid : ∀ slot call phase, service.tasks slot = .running call phase → call.asked.Valid
  /-- One row at most under a key. -/
  alike : ∀ first ∈ service.db.invoiceTerms, ∀ second ∈ service.db.invoiceTerms,
    ∀ projectId key, first.Under projectId key → second.Under projectId key → first = second
  made : ∀ terms ∈ service.db.invoiceTerms, ∀ projectId key, terms.Under projectId key →
    ∃ creator ∈ service.log, creator.Creates projectId key
  backed : ∀ creator ∈ service.log, ∀ projectId key, creator.Creates projectId key →
    creator.call.asked.Valid ∧ ∃ terms ∈ service.db.invoiceTerms, terms.Under projectId key ∧
      terms.amountMsat = creator.call.asked.amountMsat ∧
      terms.description = creator.call.asked.description
  one : ∀ first ∈ service.log, ∀ second ∈ service.log, ∀ projectId key,
    first.Creates projectId key → second.Creates projectId key →
      first.call.asked = second.call.asked
  answered : ∀ reply ∈ service.log, ∀ projectId key, reply.Under projectId key →
    ∀ given, reply.answer = .ok given →
      ∃ terms ∈ service.db.invoiceTerms, terms.Under projectId key ∧ terms.id = given.invoice.id
  seen : ∀ reply ∈ service.log, ∀ projectId key, reply.Under projectId key →
    reply.stored.isSome → ∃ terms ∈ service.db.invoiceTerms, terms.Under projectId key

theorem InvoiceService.Sound.initial : ({} : InvoiceService).Sound where
  valid := by rintro _ _ _ ⟨⟩
  alike := by rintro _ ⟨⟩
  made := by rintro _ ⟨⟩
  backed := by rintro _ ⟨⟩
  one := by rintro _ ⟨⟩
  answered := by rintro _ ⟨⟩
  seen := by rintro _ ⟨⟩

/-- A step that answers no request and writes no terms. -/
theorem InvoiceService.Sound.quiet {service next : InvoiceService} (sound : service.Sound)
    (log : next.log = service.log) (terms : next.db.invoiceTerms = service.db.invoiceTerms)
    (valid : ∀ slot call phase, next.tasks slot = .running call phase → call.asked.Valid) :
    next.Sound where
  valid := valid
  alike := by
    rw [terms]
    exact sound.alike
  made := by
    rw [terms, log]
    exact sound.made
  backed := by
    rw [terms, log]
    exact sound.backed
  one := by
    rw [log]
    exact sound.one
  answered := by
    rw [terms, log]
    exact sound.answered
  seen := by
    rw [terms, log]
    exact sound.seen

/-- What is stored under the key of a request is a row under it. -/
theorem InvoiceService.stored_isSome {db : Db} {call : InvoiceCall} {key : String}
    (keyed : call.idempotencyKey = some key) (there : (InvoiceService.stored db call).isSome) :
    ∃ terms ∈ db.invoiceTerms, terms.Under call.projectId key := by
  obtain ⟨existing, found⟩ := Option.isSome_iff_exists.mp there
  rw [InvoiceService.stored, keyed, Option.bind_some] at found
  obtain ⟨terms, member, under, -⟩ := findInvoiceByIdempotencyKey_some found
  exact ⟨terms, member, under⟩

/-- The answer of a request that made no invoice, and returns one only if it is stored. -/
theorem InvoiceService.Sound.answer {service next : InvoiceService} (sound : service.Sound)
    {call : InvoiceCall} {answer : Except ApiError InvoiceAnswer}
    (log : next.log = ⟨call, InvoiceService.stored service.db call, answer⟩ :: service.log)
    (terms : next.db.invoiceTerms = service.db.invoiceTerms)
    (valid : ∀ slot call phase, next.tasks slot = .running call phase → call.asked.Valid)
    (returned : ∀ given, answer = .ok given → given.created = false ∧
      ∀ key, call.idempotencyKey = some key → ∃ terms ∈ service.db.invoiceTerms,
        terms.Under call.projectId key ∧ terms.id = given.invoice.id) : next.Sound := by
  have notCreator : ∀ projectId key, ¬ InvoiceReply.Creates projectId key
      ⟨call, InvoiceService.stored service.db call, answer⟩ := by
    rintro projectId key ⟨-, made, given⟩
    cases (returned _ given).1
  refine ⟨valid, ?_, ?_, ?_, ?_, ?_, ?_⟩
  · rw [terms]
    exact sound.alike
  · rw [terms, log]
    intro row member projectId key under
    obtain ⟨creator, there, creates⟩ := sound.made row member projectId key under
    exact ⟨creator, List.mem_cons_of_mem _ there, creates⟩
  · rw [terms, log]
    intro creator member projectId key creates
    rcases List.mem_cons.mp member with rfl | before
    · exact absurd creates (notCreator projectId key)
    · exact sound.backed creator before projectId key creates
  · rw [log]
    intro first firstMember second secondMember projectId key firstCreates secondCreates
    rcases List.mem_cons.mp firstMember with rfl | firstBefore
    · exact absurd firstCreates (notCreator projectId key)
    · rcases List.mem_cons.mp secondMember with rfl | secondBefore
      · exact absurd secondCreates (notCreator projectId key)
      · exact sound.one first firstBefore second secondBefore projectId key firstCreates
          secondCreates
  · rw [terms, log]
    intro reply member projectId key under given ok
    rcases List.mem_cons.mp member with rfl | before
    · obtain ⟨rfl, keyed⟩ := under
      exact (returned given ok).2 key keyed
    · exact sound.answered reply before projectId key under given ok
  · rw [terms, log]
    intro reply member projectId key under there
    rcases List.mem_cons.mp member with rfl | before
    · obtain ⟨rfl, keyed⟩ := under
      exact InvoiceService.stored_isSome keyed there
    · exact sound.seen reply before projectId key under there

/-- A row that no index refuses is the first under its key. -/
theorem InvoiceTerms.not_under_of_fresh {db : Db} {row : InvoiceRow}
    (fresh : ∀ old ∈ db.invoices, ¬ InvoiceClash row old) {projectId key : String}
    (under : row.terms.Under projectId key) {terms : InvoiceTerms}
    (member : terms ∈ db.invoiceTerms) : ¬ terms.Under projectId key := by
  obtain ⟨old, here, rfl⟩ := List.mem_map.mp member
  rintro ⟨project, keyed⟩
  refine fresh old here (.inr (.inr ⟨project.trans under.1.symm, keyed.trans under.2.symm, ?_⟩))
  have set : row.idempotencyKey = some key := under.2
  rw [set]
  exact Option.some_ne_none key

/-- The answer of a request that made an invoice. -/
theorem InvoiceService.Sound.create {service next : InvoiceService} (sound : service.Sound)
    {call : InvoiceCall} {row : InvoiceRow} (askedValid : call.asked.Valid)
    (project : row.projectId = call.projectId) (keyed : row.idempotencyKey = call.idempotencyKey)
    (amount : row.amountMsat = call.asked.amountMsat)
    (description : row.description = call.asked.description)
    (fresh : ∀ old ∈ service.db.invoices, ¬ InvoiceClash row old)
    (log : next.log = ⟨call, InvoiceService.stored service.db call,
      .ok ⟨row.toInvoiceRecord, true⟩⟩ :: service.log)
    (db : next.db = service.db.withInvoice row)
    (valid : ∀ slot call phase, next.tasks slot = .running call phase → call.asked.Valid) :
    next.Sound := by
  have terms : next.db.invoiceTerms = service.db.invoiceTerms ++ [row.terms] := by
    rw [db]
    exact List.map_append ..
  have still : ∀ {old}, old ∈ service.db.invoiceTerms → old ∈ next.db.invoiceTerms := by
    intro old member
    rw [terms]
    exact List.mem_append_left _ member
  have here : row.terms ∈ next.db.invoiceTerms := by
    rw [terms]
    exact List.mem_append_right _ List.mem_cons_self
  have rowUnder : ∀ {projectId key}, InvoiceReply.Under projectId key
      ⟨call, InvoiceService.stored service.db call, .ok ⟨row.toInvoiceRecord, true⟩⟩ →
      row.terms.Under projectId key := by
    rintro projectId key ⟨same, set⟩
    exact ⟨project.trans same, keyed.trans set⟩
  have first : ∀ {projectId key}, row.terms.Under projectId key → ∀ old ∈ service.db.invoiceTerms,
      ¬ old.Under projectId key :=
    fun under old member => InvoiceTerms.not_under_of_fresh fresh under member
  refine ⟨valid, ?_, ?_, ?_, ?_, ?_, ?_⟩
  · rw [terms]
    intro one oneMember two twoMember projectId key oneUnder twoUnder
    rcases List.mem_append.mp oneMember with oneOld | oneNew
    · rcases List.mem_append.mp twoMember with twoOld | twoNew
      · exact sound.alike one oneOld two twoOld projectId key oneUnder twoUnder
      · cases List.mem_singleton.mp twoNew
        exact absurd oneUnder (first twoUnder one oneOld)
    · cases List.mem_singleton.mp oneNew
      rcases List.mem_append.mp twoMember with twoOld | twoNew
      · exact absurd twoUnder (first oneUnder two twoOld)
      · cases List.mem_singleton.mp twoNew
        rfl
  · rw [terms, log]
    intro old member projectId key under
    rcases List.mem_append.mp member with before | new
    · obtain ⟨creator, there, creates⟩ := sound.made old before projectId key under
      exact ⟨creator, List.mem_cons_of_mem _ there, creates⟩
    · cases List.mem_singleton.mp new
      refine ⟨_, List.mem_cons_self, ⟨?_, ?_⟩, _, rfl⟩
      · exact project.symm.trans under.1
      · exact keyed.symm.trans under.2
  · rw [log]
    intro creator member projectId key creates
    rcases List.mem_cons.mp member with rfl | before
    · exact ⟨askedValid, row.terms, here, rowUnder creates.1, amount, description⟩
    · obtain ⟨asked, old, there, under⟩ := sound.backed creator before projectId key creates
      exact ⟨asked, old, still there, under⟩
  · rw [log]
    intro one oneMember two twoMember projectId key oneCreates twoCreates
    rcases List.mem_cons.mp oneMember with rfl | oneBefore
    · rcases List.mem_cons.mp twoMember with rfl | twoBefore
      · rfl
      · obtain ⟨-, old, there, under, -⟩ := sound.backed two twoBefore projectId key twoCreates
        exact absurd under (first (rowUnder oneCreates.1) old there)
    · rcases List.mem_cons.mp twoMember with rfl | twoBefore
      · obtain ⟨-, old, there, under, -⟩ := sound.backed one oneBefore projectId key oneCreates
        exact absurd under (first (rowUnder twoCreates.1) old there)
      · exact sound.one one oneBefore two twoBefore projectId key oneCreates twoCreates
  · rw [log]
    intro reply member projectId key under given ok
    rcases List.mem_cons.mp member with rfl | before
    · cases ok
      exact ⟨row.terms, here, rowUnder under, rfl⟩
    · obtain ⟨old, there, found⟩ := sound.answered reply before projectId key under given ok
      exact ⟨old, still there, found⟩
  · rw [log]
    intro reply member projectId key under there
    rcases List.mem_cons.mp member with rfl | before
    · exact ⟨row.terms, here, rowUnder under⟩
    · obtain ⟨old, present, found⟩ := sound.seen reply before projectId key under there
      exact ⟨old, still present, found⟩

/-- The requests in progress stay checked when one moves on. -/
theorem InvoiceService.Sound.valid_update {service : InvoiceService} (sound : service.Sound)
    {slot : ℕ} {task : InvoiceTask}
    (here : ∀ call phase, task = .running call phase → call.asked.Valid) :
    ∀ other call phase, Function.update service.tasks slot task other = .running call phase →
      call.asked.Valid := by
  intro other call phase running
  by_cases same : other = slot
  · rw [same, Function.update_self] at running
    exact here call phase running
  · rw [Function.update_of_ne same] at running
    exact sound.valid other call phase running

theorem InvoiceService.Sound.accept {env : InvoiceEnv} {service : InvoiceService}
    (sound : service.Sound) (slot : ℕ) (projectId : String) (header : Option String)
    (request : InvoiceRequest) : (service.accept env slot projectId header request).Sound := by
  unfold InvoiceService.accept
  split
  · rename_i asked key checked parsed
    refine sound.quiet rfl rfl (sound.valid_update ?_)
    rintro call phase ⟨⟩
    exact InvoiceRequest.check_valid checked
  · exact sound

/-- A step of a request. -/
theorem InvoiceService.Sound.put {env : InvoiceEnv} {service : InvoiceService}
    (sound : service.Sound) {slot : ℕ} {call : InvoiceCall} {phase : InvoicePhase}
    (valid : call.asked.Valid) {action : InvoiceAction} {outcome : InvoiceOutcome}
    (stepped : InvoiceStepped env service.db call phase action outcome) :
    (service.put slot call outcome).Sound := by
  have goesOn : ∀ next : InvoicePhase, ∀ other phase,
      InvoiceTask.running call next = .running other phase → other.asked.Valid := by
    rintro next other phase ⟨⟩
    exact valid
  have ends : ∀ other phase, InvoiceTask.idle = .running other phase → other.asked.Valid := by
    rintro other phase ⟨⟩
  have noInvoice : ∀ (error : ApiError) (given : InvoiceAnswer),
      Except.error error = Except.ok given → given.created = false ∧
        ∀ key, call.idempotencyKey = some key → ∃ terms ∈ service.db.invoiceTerms,
          terms.Under call.projectId key ∧ terms.id = given.invoice.id := by
    rintro error given ⟨⟩
  cases stepped with
  | unkeyed noKey => exact sound.quiet rfl rfl (sound.valid_update (goesOn _))
  | absent key keyed missing => exact sound.quiet rfl rfl (sound.valid_update (goesOn _))
  | refused key keyed existing found differs =>
      exact sound.answer rfl rfl (sound.valid_update ends) (noInvoice _)
  | returned key keyed existing found amount description =>
      refine sound.answer rfl rfl (sound.valid_update ends) ?_
      rintro given ⟨⟩
      refine ⟨rfl, ?_⟩
      intro other set
      cases keyed.symm.trans set
      obtain ⟨terms, member, under, same, -⟩ := findInvoiceByIdempotencyKey_some found
      exact ⟨terms, member, under, same⟩
  | nodeFailed error => exact sound.answer rfl rfl (sound.valid_update ends) (noInvoice _)
  | noInstant created far => exact sound.answer rfl rfl (sound.valid_update ends) (noInvoice _)
  | invoiced created expiresAt instant =>
      exact sound.quiet rfl rfl (sound.valid_update (goesOn _))
  | stored created expiresAt now id fresh =>
      exact sound.create valid rfl rfl rfl rfl fresh rfl rfl (sound.valid_update ends)
  | lost created expiresAt now id keyed => exact sound.quiet rfl rfl (sound.valid_update (goesOn _))
  | clashed created expiresAt now id noKey =>
      exact sound.answer rfl rfl (sound.valid_update ends) (noInvoice _)
  | recovered existing found =>
      refine sound.answer rfl rfl (sound.valid_update ends) ?_
      rintro given ⟨⟩
      refine ⟨rfl, ?_⟩
      intro key set
      rw [set, Option.getD_some] at found
      obtain ⟨terms, member, under, same, -⟩ := findInvoiceByIdempotencyKey_some found
      exact ⟨terms, member, under, same⟩
  | vanished missing => exact sound.answer rfl rfl (sound.valid_update ends) (noInvoice _)

theorem invoicing_sound {env : InvoiceEnv} {service : InvoiceService}
    (reached : (invoicing env).Reachable service) : service.Sound := by
  refine reached.invariant InvoiceService.Sound ?_ ?_
  · rintro _ rfl
    exact .initial
  · intro service action next _ sound step
    cases action with
    | request slot projectId header request =>
        simp only [invoicing, InvoiceService.step] at step
        split at step
        · cases step
          exact sound.accept slot projectId header request
        · cases step
    | act slot action =>
        simp only [invoicing, InvoiceService.step] at step
        split at step
        · cases step
        · rename_i call phase running
          obtain ⟨outcome, acted, rfl⟩ := Option.map_eq_some_iff.mp step
          have valid := sound.valid slot call phase running
          exact sound.put valid (call.act_stepped valid acted)
    | cancel slot =>
        cases step
        refine sound.quiet rfl rfl (sound.valid_update ?_)
        rintro call phase ⟨⟩
    | markInvoicePaid now dedupeKey paymentHash amount =>
        cases step
        exact sound.quiet rfl (markInvoicePaid_invoiceTerms ..) sound.valid
    | expireInvoices now =>
        cases step
        exact sound.quiet rfl (expireInvoices_invoiceTerms ..) sound.valid

/-! ## What a step adds to the promise -/

/-- Only what was asked for depends on the steps. -/
theorem InvoiceService.Sound.idempotent_iff {service : InvoiceService} (sound : service.Sound) :
    (∀ projectId key, IdempotentKey service.log projectId key) ↔
      ∀ projectId key, ∀ creator ∈ service.log, creator.Creates projectId key →
        ∀ reply ∈ service.log, reply.Under projectId key → creator.Honours reply := by
  constructor
  · intro idempotent projectId key
    exact (idempotent projectId key).honoured
  · intro honoured projectId key
    refine ⟨?_, ?_, honoured projectId key⟩
    · intro first firstMember second secondMember firstUnder secondUnder given other ok okOther
      obtain ⟨terms, there, under, same⟩ :=
        sound.answered first firstMember projectId key firstUnder given ok
      obtain ⟨terms', there', under', same'⟩ :=
        sound.answered second secondMember projectId key secondUnder other okOther
      rw [← same, ← same', sound.alike terms there terms' there' projectId key under under']
    · intro reply member under given ok
      obtain ⟨terms, there, stored, -⟩ := sound.answered reply member projectId key under given ok
      exact sound.made terms there projectId key stored

/-- The row a request finds under its key is the one the creator asked for. -/
theorem InvoiceService.Sound.found {service : InvoiceService} (sound : service.Sound)
    {projectId key : String} {creator : InvoiceReply} (member : creator ∈ service.log)
    (creates : creator.Creates projectId key) : ∃ existing,
      service.db.findInvoiceByIdempotencyKey projectId key = some existing ∧
        asU64 existing.amountMsat = creator.call.asked.amountMsat ∧
        existing.description = creator.call.asked.description := by
  obtain ⟨valid, terms, there, under, amount, description⟩ :=
    sound.backed creator member projectId key creates
  cases found : service.db.findInvoiceByIdempotencyKey projectId key with
  | none => exact absurd under (findInvoiceByIdempotencyKey_none found there)
  | some existing =>
      obtain ⟨terms', there', under', -, amount', description'⟩ :=
        findInvoiceByIdempotencyKey_some found
      cases sound.alike terms there terms' there' projectId key under under'
      refine ⟨existing, rfl, ?_, ?_⟩
      · rw [← amount', amount, asU64_natCast valid.2]
      · rw [← description', description]

/-- Only a reused key is reported as one. -/
theorem LightningError.toApiError_ne_reused (error : LightningError) :
    error.toApiError ≠ StorageError.idempotencyMismatch.toApiError := by
  cases error <;> simp [LightningError.toApiError, StorageError.toApiError, ApiError.conflict,
    ApiError.unavailable]

/-- The new entry of the log is the only one that a step can break the promise with. -/
theorem InvoiceService.Sound.honours_cons_iff {service next : InvoiceService}
    {reply : InvoiceReply} (log : next.log = reply :: service.log)
    (ended : ∀ given, reply.answer = .ok given → given.created = false)
    (held : ∀ projectId key, IdempotentKey service.log projectId key) (soundNext : next.Sound) :
    (∀ projectId key, IdempotentKey next.log projectId key) ↔
      ∀ projectId key, reply.Under projectId key → ∀ creator ∈ service.log,
        creator.Creates projectId key → creator.Honours reply := by
  rw [soundNext.idempotent_iff, log]
  constructor
  · intro honoured projectId key under creator member creates
    exact honoured projectId key creator (List.mem_cons_of_mem _ member) creates reply
      List.mem_cons_self under
  · intro honoured projectId key creator creatorMember creates other otherMember under
    rcases List.mem_cons.mp creatorMember with rfl | creatorBefore
    · obtain ⟨-, made, ok⟩ := creates
      cases ended _ ok
    · rcases List.mem_cons.mp otherMember with rfl | otherBefore
      · exact honoured projectId key under creator creatorBefore creates
      · exact (held projectId key).honoured creator creatorBefore creates other otherBefore under

theorem InvoiceReply.honours_of_ok {creator reply : InvoiceReply} {given : InvoiceAnswer}
    (ok : reply.answer = .ok given) :
    creator.Honours reply ↔ reply.call.asked = creator.call.asked := by
  constructor
  · intro honours
    exact honours.asked given ok
  · intro same
    exact ⟨fun _ _ => same, fun _ differs => absurd same differs⟩

theorem InvoiceReply.honours_of_failed {creator reply : InvoiceReply} {error : ApiError}
    (failed : reply.answer = .error error)
    (other : error ≠ StorageError.idempotencyMismatch.toApiError) (there : reply.stored.isSome) :
    creator.Honours reply ↔ reply.call.asked = creator.call.asked := by
  constructor
  · intro honours
    by_contra differs
    have reused := honours.reused there differs
    rw [failed] at reused
    exact other (Except.error.inj reused)
  · intro same
    exact ⟨fun _ _ => same, fun _ differs => absurd same differs⟩

theorem InvoiceReply.honours_of_refused {creator reply : InvoiceReply}
    (refused : reply.answer = .error StorageError.idempotencyMismatch.toApiError) :
    creator.Honours reply := by
  refine ⟨?_, fun _ _ => refused⟩
  intro given ok
  rw [refused] at ok
  cases ok

/-- What is left of the promise once a request made the first invoice of its key. -/
theorem InvoiceService.Sound.idempotent_create {service next : InvoiceService}
    (sound : service.Sound) {call : InvoiceCall} {row : InvoiceRow}
    (project : row.projectId = call.projectId) (keyed : row.idempotencyKey = call.idempotencyKey)
    (fresh : ∀ old ∈ service.db.invoices, ¬ InvoiceClash row old)
    (log : next.log = ⟨call, InvoiceService.stored service.db call,
      .ok ⟨row.toInvoiceRecord, true⟩⟩ :: service.log)
    (held : ∀ projectId key, IdempotentKey service.log projectId key) (soundNext : next.Sound) :
    ∀ projectId key, IdempotentKey next.log projectId key := by
  have first : ∀ {projectId key}, InvoiceReply.Under projectId key
      ⟨call, InvoiceService.stored service.db call, .ok ⟨row.toInvoiceRecord, true⟩⟩ →
      ∀ old ∈ service.db.invoiceTerms, ¬ old.Under projectId key := by
    rintro projectId key ⟨same, set⟩ old member
    exact InvoiceTerms.not_under_of_fresh fresh ⟨project.trans same, keyed.trans set⟩ member
  rw [soundNext.idempotent_iff, log]
  intro projectId key creator creatorMember creates reply replyMember under
  rcases List.mem_cons.mp creatorMember with rfl | creatorBefore
  · rcases List.mem_cons.mp replyMember with rfl | replyBefore
    · exact ⟨fun _ _ => rfl, fun _ differs => absurd rfl differs⟩
    · refine ⟨?_, ?_⟩
      · intro given ok
        obtain ⟨old, there, stored, -⟩ :=
          sound.answered reply replyBefore projectId key under given ok
        exact absurd stored (first creates.1 old there)
      · intro there _
        obtain ⟨old, present, stored⟩ := sound.seen reply replyBefore projectId key under there
        exact absurd stored (first creates.1 old present)
  · rcases List.mem_cons.mp replyMember with rfl | replyBefore
    · obtain ⟨-, old, there, stored, -⟩ :=
        sound.backed creator creatorBefore projectId key creates
      exact absurd stored (first under old there)
    · exact (held projectId key).honoured creator creatorBefore creates reply replyBefore under

/-- A step of a request keeps the promise exactly if it agrees with the creator. -/
theorem InvoiceService.Sound.put_iff {env : InvoiceEnv} {service : InvoiceService}
    (sound : service.Sound) (held : ∀ projectId key, IdempotentKey service.log projectId key)
    {slot : ℕ} {call : InvoiceCall} {phase : InvoicePhase} (valid : call.asked.Valid)
    {action : InvoiceAction} {outcome : InvoiceOutcome}
    (stepped : InvoiceStepped env service.db call phase action outcome) :
    (∀ projectId key, IdempotentKey (service.put slot call outcome).log projectId key) ↔
      ∀ key, call.idempotencyKey = some key → ∀ creator ∈ service.log,
        creator.Creates call.projectId key →
          call.Agrees env creator.call.asked phase action := by
  have soundNext : (service.put slot call outcome).Sound := sound.put valid stepped
  -- An answer that makes no invoice is judged by each creator on its own.
  have judged : ∀ answer : Except ApiError InvoiceAnswer,
      (service.put slot call outcome).log =
        ⟨call, InvoiceService.stored service.db call, answer⟩ :: service.log →
      (∀ given, answer = .ok given → given.created = false) →
      (∀ key, call.idempotencyKey = some key → ∀ creator ∈ service.log,
        creator.Creates call.projectId key →
          (creator.Honours ⟨call, InvoiceService.stored service.db call, answer⟩ ↔
            call.Agrees env creator.call.asked phase action)) →
      ((∀ projectId key, IdempotentKey (service.put slot call outcome).log projectId key) ↔
        ∀ key, call.idempotencyKey = some key → ∀ creator ∈ service.log,
          creator.Creates call.projectId key →
            call.Agrees env creator.call.asked phase action) := by
    intro answer log ended same
    rw [honours_cons_iff log ended held soundNext]
    constructor
    · intro honours key keyed creator member creates
      exact (same key keyed creator member creates).mp
        (honours call.projectId key ⟨rfl, keyed⟩ creator member creates)
    · rintro agrees projectId key ⟨rfl, keyed⟩ creator member creates
      exact (same key keyed creator member creates).mpr (agrees key keyed creator member creates)
  have stored : ∀ {key}, call.idempotencyKey = some key → ∀ creator ∈ service.log,
      creator.Creates call.projectId key → (InvoiceService.stored service.db call).isSome := by
    intro key keyed creator member creates
    obtain ⟨existing, found, -⟩ := sound.found member creates
    rw [InvoiceService.stored, keyed, Option.bind_some, found]
    rfl
  have noAnswer : ∀ {error : ApiError} (given : InvoiceAnswer),
      Except.error error = Except.ok given → given.created = false := by
    rintro error given ⟨⟩
  cases stepped with
  | unkeyed noKey =>
      refine iff_of_true held ?_
      intro key keyed
      rw [noKey] at keyed
      cases keyed
  | absent key keyed missing =>
      refine iff_of_true held ?_
      intro other set creator member creates
      cases keyed.symm.trans set
      obtain ⟨existing, found, -⟩ := sound.found member creates
      rw [missing] at found
      cases found
  | refused key keyed existing found differs =>
      refine judged _ rfl noAnswer ?_
      intro other set creator member creates
      refine iff_of_true (InvoiceReply.honours_of_refused rfl) ?_
      cases keyed.symm.trans set
      obtain ⟨same, there, amount, description⟩ := sound.found member creates
      cases found.symm.trans there
      intro asksAmount asksDescription
      rcases differs with differs | differs
      · exact absurd (amount.trans asksAmount.symm) differs
      · exact absurd (description.trans asksDescription.symm) differs
  | returned key keyed existing found amount description =>
      refine judged _ rfl (by rintro given ⟨⟩; rfl) ?_
      intro other set creator member creates
      rw [InvoiceReply.honours_of_ok rfl]
      cases keyed.symm.trans set
      obtain ⟨same, there, asksAmount, asksDescription⟩ := sound.found member creates
      cases found.symm.trans there
      constructor
      · intro asked _ _
        exact asked
      · intro agrees
        exact agrees (amount.symm.trans asksAmount) (description.symm.trans asksDescription)
  | nodeFailed error =>
      refine judged _ rfl noAnswer ?_
      intro key keyed creator member creates
      exact InvoiceReply.honours_of_failed rfl error.toApiError_ne_reused
        (stored keyed creator member creates)
  | noInstant created far =>
      refine judged _ rfl noAnswer ?_
      intro key keyed creator member creates
      rw [InvoiceReply.honours_of_failed rfl (by decide) (stored keyed creator member creates)]
      exact ⟨fun asked _ => asked, fun agrees => agrees far⟩
  | invoiced created expiresAt instant =>
      refine iff_of_true held ?_
      intro key keyed creator member creates far
      rw [instant] at far
      cases far
  | stored created expiresAt now id fresh =>
      refine iff_of_true ?_ fun _ _ _ _ _ => trivial
      exact sound.idempotent_create rfl rfl fresh rfl held soundNext
  | lost created expiresAt now id keyed =>
      exact iff_of_true held fun _ _ _ _ _ => trivial
  | clashed created expiresAt now id noKey =>
      refine judged _ rfl noAnswer ?_
      intro key keyed
      rw [noKey] at keyed
      cases keyed
  | recovered existing found =>
      refine judged _ rfl (by rintro given ⟨⟩; rfl) ?_
      intro key keyed creator member creates
      exact InvoiceReply.honours_of_ok rfl
  | vanished missing =>
      refine judged _ rfl noAnswer ?_
      intro key keyed creator member creates
      obtain ⟨existing, found, -⟩ := sound.found member creates
      rw [keyed, Option.getD_some, found] at missing
      cases missing

/-- A step keeps the promise exactly if it meets the condition. -/
theorem InvoiceService.Sound.step_iff {env : InvoiceEnv} {service next : InvoiceService}
    (sound : service.Sound) (held : ∀ projectId key, IdempotentKey service.log projectId key)
    {action : InvoiceServiceAction} (step : service.step env action = some next) :
    (∀ projectId key, IdempotentKey next.log projectId key) ↔ service.Keeps env action := by
  cases action with
  | request slot projectId header request =>
      simp only [InvoiceService.step] at step
      split at step
      · cases step
        refine iff_of_true ?_ trivial
        unfold InvoiceService.accept
        split
        · exact held
        · exact held
      · cases step
  | act slot action =>
      simp only [InvoiceService.step] at step
      split at step
      · cases step
      · rename_i call phase running
        obtain ⟨outcome, acted, rfl⟩ := Option.map_eq_some_iff.mp step
        have valid := sound.valid slot call phase running
        rw [sound.put_iff held valid (call.act_stepped valid acted)]
        simp only [InvoiceService.Keeps, running]
  | cancel slot =>
      cases step
      exact iff_of_true held trivial
  | markInvoicePaid now dedupeKey paymentHash amount =>
      cases step
      exact iff_of_true held trivial
  | expireInvoices now =>
      cases step
      exact iff_of_true held trivial

/-- **The keys keep their promise along a run exactly if every request that meets the
invoice of its key agrees with the request that made it.** -/
theorem invoices_idempotent (env : InvoiceEnv) {actions : List InvoiceServiceAction}
    {last : InvoiceService} (ran : (invoicing env).run {} actions = some last) :
    (∀ service ∈ (invoicing env).visited {} actions, ∀ projectId key,
      IdempotentKey service.log projectId key) ↔
      (invoicing env).StepsMeet (InvoiceService.Keeps env) {} actions := by
  refine Machine.forall_visited_iff_stepsMeet
    (fun service : InvoiceService => ∀ projectId key, IdempotentKey service.log projectId key)
    (InvoiceService.Keeps env) ?_ (.start rfl) ?_ ran
  · intro service action next reached held step
    exact (invoicing_sound reached).step_iff held step
  · refine InvoiceService.Sound.initial.idempotent_iff.mpr ?_
    rintro projectId key creator ⟨⟩

/-! ## Requests that agree, and requests that do not -/

/-- Requests that ask for little metadata, and for seconds near to now. -/
def nearby : InvoiceEnv where
  toText _ := "{}"
  timestampOpt seconds := some (seconds * 1_000_000)

/-- A request for ten satoshis. -/
def coffee (metadata : Option Value) : InvoiceRequest where
  amountMsat := none
  amountSat := some 10
  description := "coffee"
  expirySecs := none
  metadata := metadata

/-- The steps by which a request makes an invoice, up to its insert. -/
def invoiceSteps (slot : ℕ) (request : InvoiceRequest) (paymentHash : String) :
    List InvoiceServiceAction :=
  [.request slot "proj_1" (some "order-1") request, .act slot .read,
    .act slot (.node (.ok ⟨"lnbcrt1", paymentHash, 1_700_003_600⟩))]

/-- Two requests for the same race, and the loser is given the winner's invoice. -/
def racingActions (second : InvoiceRequest) : List InvoiceServiceAction :=
  invoiceSteps 0 (coffee none) "hash1" ++ invoiceSteps 1 second "hash2" ++
    [.act 0 (.insert 0 "inv_1"), .act 1 (.insert 0 "inv_2"), .act 1 .read]

theorem invoices_idempotent_raced : ∃ last : InvoiceService,
    (invoicing nearby).run {} (racingActions (coffee none)) = some last ∧
    ((∀ service ∈ (invoicing nearby).visited {} (racingActions (coffee none)),
      ∀ projectId key, IdempotentKey service.log projectId key) ↔
        (invoicing nearby).StepsMeet (InvoiceService.Keeps nearby) {}
          (racingActions (coffee none))) := by
  obtain ⟨last, ran⟩ : ∃ last, (invoicing nearby).run {} (racingActions (coffee none)) =
    some last := ⟨_, rfl⟩
  exact ⟨last, ran, invoices_idempotent nearby ran⟩

/-- Two replies of one key, to requests that asked for different things. -/
theorem IdempotentKey.not_of_given {log : List InvoiceReply} {projectId key : String}
    {creator reply : InvoiceReply} (creatorMember : creator ∈ log) (replyMember : reply ∈ log)
    (creates : creator.Creates projectId key) (under : reply.Under projectId key)
    {given : InvoiceAnswer} (ok : reply.answer = .ok given)
    (differs : reply.call.asked ≠ creator.call.asked) : ¬ IdempotentKey log projectId key :=
  fun promise =>
    differs
      ((promise.honoured creator creatorMember creates reply replyMember under).asked given ok)

/-- The same key with other metadata returns the stored invoice. -/
theorem metadata_not_compared : ∃ last : InvoiceService,
    (invoicing nearby).Reachable last ∧ ¬ IdempotentKey last.log "proj_1" "order-1" := by
  obtain ⟨last, creator, reply, given, made, ran, log, creates, under, ok, asked, other⟩ :
      ∃ last creator reply given made, (invoicing nearby).run {}
        (invoiceSteps 0 (coffee none) "hash1" ++ [.act 0 (.insert 0 "inv_1"),
          .request 1 "proj_1" (some "order-1") (coffee (some (.object [("table", .number 7)]))),
          .act 1 .read]) = some last ∧
        last.log = [reply, creator] ∧ (creator.Under "proj_1" "order-1" ∧
          creator.answer = .ok ⟨made, true⟩) ∧ reply.Under "proj_1" "order-1" ∧
        reply.answer = .ok given ∧ creator.call.asked.metadata = .object [] ∧
        reply.call.asked.metadata = .object [("table", .number 7)] :=
    ⟨_, _, _, _, _, rfl, rfl, ⟨⟨rfl, rfl⟩, rfl⟩, ⟨rfl, rfl⟩, rfl, rfl, rfl⟩
  refine ⟨last, Machine.reachable_of_run rfl ran, ?_⟩
  rw [log]
  refine IdempotentKey.not_of_given (List.mem_cons_of_mem _ List.mem_cons_self)
    List.mem_cons_self ⟨creates.1, made, creates.2⟩ under ok ?_
  intro same
  rw [same, asked] at other
  cases other

/-- The loser of a race is given the winner's invoice, whatever it asked for. -/
theorem loser_not_compared : ∃ last : InvoiceService,
    (invoicing nearby).Reachable last ∧ ¬ IdempotentKey last.log "proj_1" "order-1" := by
  obtain ⟨last, creator, reply, given, made, ran, log, creates, under, ok, asked, other⟩ :
      ∃ last creator reply given made, (invoicing nearby).run {}
        (racingActions { coffee none with amountSat := some 11 }) = some last ∧
        last.log = [reply, creator] ∧ (creator.Under "proj_1" "order-1" ∧
          creator.answer = .ok ⟨made, true⟩) ∧ reply.Under "proj_1" "order-1" ∧
        reply.answer = .ok given ∧ creator.call.asked.amountMsat = 10_000 ∧
        reply.call.asked.amountMsat = 11_000 :=
    ⟨_, _, _, _, _, rfl, rfl, ⟨⟨rfl, rfl⟩, rfl⟩, ⟨rfl, rfl⟩, rfl, rfl, rfl⟩
  refine ⟨last, Machine.reachable_of_run rfl ran, ?_⟩
  rw [log]
  refine IdempotentKey.not_of_given (List.mem_cons_of_mem _ List.mem_cons_self)
    List.mem_cons_self ⟨creates.1, made, creates.2⟩ under ok ?_
  intro same
  rw [same, asked] at other
  cases other

end Safrod
