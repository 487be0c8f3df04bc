import PgReplicate.TableRow

/-!
# `api/src/routes/sources.rs`: what the source endpoints answer

Each handler reads the tenant id from the request (`extract_tenant_id`), makes one call into
`db::sources` for that tenant, and answers: `200` with a JSON body, or the `SourceError`'s
`error_response`, whose status is `400` for the tenant id, `404` for a missing source and
`500` for the database, and whose body replaces a `Database` error's own text.  The results
of the two outside calls are the handlers' inputs, the database call as a function of the
tenant id it is made for.  `update_source` and `delete_source` are one handler
(`modifySource`) over their own database calls, and what they answer depends on the database
only through its answer for the requesting tenant (`modifySource_congr`).
-/

namespace PgReplicate.Api

/-- `SourcesDbError`, as this file sees it: `Database`, whose text must stay internal, or one
of its other variants. -/
inductive SourcesDbError (D O : Type)
  | database (e : D)
  | other (e : O)

inductive SourceError (T D O : Type)
  | sourceNotFound (id : Int)
  | tenantId (e : T)
  | sourcesDb (e : SourcesDbError D O)

/-- The fields of `SourceConfig` that `StrippedSourceConfig::from` reads; `rest` stands for
the ones it leaves behind. -/
structure SourceConfig (R : Type) where
  host : String
  port : UInt16
  name : String
  username : String
  rest : R

structure StrippedSourceConfig where
  host : String
  port : UInt16
  name : String
  username : String
  deriving DecidableEq, Repr

structure SourceWithConfig (R : Type) where
  id : Int
  tenantId : String
  name : String
  config : SourceConfig R

structure ReadSourceResponse where
  id : Int
  tenantId : String
  name : String
  config : StrippedSourceConfig
  deriving DecidableEq, Repr

/-- The JSON bodies of the handlers' `200` answers: `CreateSourceResponse`,
`ReadSourceResponse`, `ReadSourcesResponse`, or no body (`HttpResponse::Ok().finish()`). -/
inductive Body
  | created (id : Int)
  | source (r : ReadSourceResponse)
  | sources (rs : List ReadSourceResponse)
  | empty
  deriving DecidableEq, Repr

structure ErrorMessage where
  error : String
  deriving DecidableEq, Repr

structure Response where
  status : Nat
  body : Body ⊕ ErrorMessage
  deriving DecidableEq, Repr

/-! ## Algorithm -/

section
variable {T D O : Type} (tenantIdText : T → String) (sourcesDbText : SourcesDbError D O → String)

/-- `Display for SourceError` (`thiserror`): the not-found text, or the wrapped error's own
text (`#[error(transparent)]`). -/
def SourceError.display : SourceError T D O → String
  | .sourceNotFound id => "The source with id " ++ toString id ++ " was not found"
  | .tenantId e => tenantIdText e
  | .sourcesDb e => sourcesDbText e

/-- `SourceError::to_message`: a `Database` error's text is replaced. -/
def SourceError.toMessage : SourceError T D O → String
  | .sourcesDb (.database _) => "internal server error"
  | e => e.display tenantIdText sourcesDbText

end

/-- `ResponseError::status_code`. -/
def SourceError.statusCode {T D O : Type} : SourceError T D O → Nat
  | .sourcesDb _ => 500
  | .sourceNotFound _ => 404
  | .tenantId _ => 400

section
variable {T D O : Type} (tenantIdText : T → String) (sourcesDbText : SourcesDbError D O → String)

/-- `ResponseError::error_response`: the status, and `to_message` as the body. -/
def SourceError.errorResponse (e : SourceError T D O) : Response :=
  ⟨e.statusCode, .inr ⟨e.toMessage tenantIdText sourcesDbText⟩⟩

/-- What actix answers for a handler's result: `200` and the body, or the error's
response. -/
def respond : Except (SourceError T D O) Body → Response
  | .ok b => ⟨200, .inl b⟩
  | .error e => e.errorResponse tenantIdText sourcesDbText

end

/-- `impl From<SourceConfig> for StrippedSourceConfig`. -/
def StrippedSourceConfig.ofSourceConfig {R : Type} (c : SourceConfig R) : StrippedSourceConfig :=
  ⟨c.host, c.port, c.name, c.username⟩

def readSourceResponse {R : Type} (s : SourceWithConfig R) : ReadSourceResponse :=
  ⟨s.id, s.tenantId, s.name, .ofSourceConfig s.config⟩

section
variable {T D O R U : Type} (tenantId : Except T String)

/-- `create_source`; `create t` is `db::sources::create_source` for tenant `t`. -/
def createSource (create : String → Except (SourcesDbError D O) Int) :
    Except (SourceError T D O) Body := do
  let tenantId ← tenantId.mapError .tenantId
  let id ← (create tenantId).mapError .sourcesDb
  pure (.created id)

def readSource (sourceId : Int)
    (read : String → Int → Except (SourcesDbError D O) (Option (SourceWithConfig R))) :
    Except (SourceError T D O) Body := do
  let tenantId ← tenantId.mapError .tenantId
  let source ← (read tenantId sourceId).mapError .sourcesDb
  match source.map readSourceResponse with
  | some response => pure (.source response)
  | none => throw (.sourceNotFound sourceId)

/-- What `update_source` and `delete_source` share: the database call for the tenant and the
source id, `SourceNotFound` when it finds no row, and an empty `200` when it does. -/
def modifySource (sourceId : Int) (call : String → Int → Except (SourcesDbError D O) (Option U)) :
    Except (SourceError T D O) Body := do
  let tenantId ← tenantId.mapError .tenantId
  let found ← (call tenantId sourceId).mapError .sourcesDb
  match found with
  | some _ => pure .empty
  | none => throw (.sourceNotFound sourceId)

/-- `update_source`; `update t id` is `db::sources::update_source` for tenant `t` (the name
and the config it writes are its own business). -/
def updateSource (sourceId : Int)
    (update : String → Int → Except (SourcesDbError D O) (Option U)) :
    Except (SourceError T D O) Body :=
  modifySource tenantId sourceId update

def deleteSource (sourceId : Int)
    (delete : String → Int → Except (SourcesDbError D O) (Option U)) :
    Except (SourceError T D O) Body :=
  modifySource tenantId sourceId delete

def readAllSources (readAll : String → Except (SourcesDbError D O) (List (SourceWithConfig R))) :
    Except (SourceError T D O) Body := do
  let tenantId ← tenantId.mapError .tenantId
  let sources ← (readAll tenantId).mapError .sourcesDb
  pure (.sources (sources.map readSourceResponse))

end

/-! ## Lemmas -/

section
variable {T D O U : Type}

/-- **Tenant isolation.** `update_source` and `delete_source` depend on the database only
through its answer for the tenant the request names and the source id it asks for. -/
theorem modifySource_congr (tenantId : Except T String) (sourceId : Int)
    {call call' : String → Int → Except (SourcesDbError D O) (Option U)}
    (h : ∀ tid, tenantId = .ok tid → call tid sourceId = call' tid sourceId) :
    modifySource tenantId sourceId call = modifySource tenantId sourceId call' := by
  rcases tenantId with t | tid
  · rfl
  · simp only [modifySource, except_mapError_ok, except_ok_bind, h tid rfl]

end

end PgReplicate.Api
