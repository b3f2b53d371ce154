import Safrod.Storage.Events

/-!
# Webhook endpoints

An endpoint is created enabled and may be disabled. `testEndpoint` writes a
`webhook.test` event outside any other state change.
-/

set_option autoImplicit false

namespace Safrod

open Table

namespace Db

def createWebhookEndpoint (now : DateTime) (id projectId url secret : String) :
    Db → Except StorageError WebhookEndpoint × Db :=
  transaction fun tx =>
    let endpoint : WebhookEndpoint := ⟨id, projectId, url, secret, true, now⟩
    if ∃ old ∈ tx.webhookEndpoints, old.id = id then .error .conflict
    else .ok (.commit endpoint { tx with webhookEndpoints := tx.webhookEndpoints ++ [endpoint] })

def disabled (endpoint : WebhookEndpoint) : WebhookEndpoint := { endpoint with enabled := false }

/-- `where id = $1 and project_id = $2`; no row is an error. -/
def disableWebhookEndpoint (projectId id : String) : Db → Except StorageError Unit × Db :=
  transaction fun tx =>
    let chosen := fun endpoint : WebhookEndpoint =>
      endpoint.id = id ∧ endpoint.projectId = projectId
    if ∃ endpoint ∈ tx.webhookEndpoints, chosen endpoint then
      .ok (.commit () { tx with
        webhookEndpoints := updateWhere chosen disabled tx.webhookEndpoints })
    else .error .notFound

/-- `emit_standalone`, as `POST /v1/webhook-endpoints/{id}/test` calls it. -/
def testEndpoint (now : DateTime) (projectId id : String) : Db → Except StorageError Unit × Db :=
  transaction fun tx =>
    .ok (.commit () (tx.emit now projectId "webhook.test" id
      (.object [("endpoint_id", .string id)]) false))

/-- Creating an endpoint writes the table of endpoints only. -/
theorem createWebhookEndpoint_cases (now : DateTime) (id projectId url secret : String) (db : Db) :
    (createWebhookEndpoint now id projectId url secret db).2 = db ∨
    ((∀ old ∈ db.webhookEndpoints, old.id ≠ id) ∧
      (createWebhookEndpoint now id projectId url secret db).2 = { db with
        webhookEndpoints :=
          db.webhookEndpoints ++ [⟨id, projectId, url, secret, true, now⟩] }) := by
  by_cases taken : ∃ old ∈ db.webhookEndpoints, old.id = id
  · refine .inl ?_
    simp only [createWebhookEndpoint, transaction, if_pos taken]
  · refine .inr ⟨?_, ?_⟩
    · intro old member same
      exact taken ⟨old, member, same⟩
    · simp only [createWebhookEndpoint, transaction, if_neg taken]

/-- Disabling an endpoint writes the table of endpoints only. -/
theorem disableWebhookEndpoint_cases (projectId id : String) (db : Db) :
    (disableWebhookEndpoint projectId id db).2 = db ∨
    (disableWebhookEndpoint projectId id db).2 = { db with
      webhookEndpoints := updateWhere (fun endpoint => endpoint.id = id ∧
        endpoint.projectId = projectId) disabled db.webhookEndpoints } := by
  by_cases there : ∃ endpoint ∈ db.webhookEndpoints,
      endpoint.id = id ∧ endpoint.projectId = projectId
  · refine .inr ?_
    simp only [disableWebhookEndpoint, transaction, if_pos there]
  · refine .inl ?_
    simp only [disableWebhookEndpoint, transaction, if_neg there]

theorem testEndpoint_snd (now : DateTime) (projectId id : String) (db : Db) :
    (testEndpoint now projectId id db).2 = db.emit now projectId "webhook.test" id
      (.object [("endpoint_id", .string id)]) false := rfl

end Db

end Safrod
