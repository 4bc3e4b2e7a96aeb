import OpenEventIm.Foundation.Checked
import OpenEventIm.Sdk.Normalizer
import OpenEventIm.Syncer.Models

/-!
# Parsing of the configuration

`parse_config` on the decoded YAML document.  A YAML value without a JSON
counterpart fails every check in the way `null` does.  Values that no modelled
function reads are checked and dropped.

`parseConfig_accepted` states what an accepted configuration satisfies beyond
the types of its fields.
-/

namespace OpenEventIm.Syncer.Config

open OpenEventIm.Foundation
open OpenEventIm.Foundation.Checked
open OpenEventIm.Sdk.Errors
open OpenEventIm.Sdk.Normalizer
open OpenEventIm.Syncer.Models

/-! ## Field checks -/

def configError (message : String) : PyError := .raised .configError message

/-- `fields.get(key, default)`. -/
def getOr (key : String) (default : Json) (fields : JsonObject) :
    Option Json :=
  some ((Items.get? key fields).getD default)

/-- `_obj`. -/
def obj (value : Option Json) (field : String) : Except PyError JsonObject :=
  match value with
  | some (.obj fields) => .ok fields
  | _ => .error (configError s!"{field} must be an object")

/-- `_str`. -/
def str (value : Option Json) (field : String) : Except PyError String :=
  match value with
  | some (.str text) =>
      if text = "" then
        .error (configError s!"{field} must be a non-empty string")
      else
        .ok text
  | _ => .error (configError s!"{field} must be a non-empty string")

/-- `_identity_type`. -/
def identityType (value : Option Json) (field : String) :
    Except PyError String := do
  let value ← str value field
  require (value = "user" ∨ value = "bot")
    (configError s!"{field} must be user or bot")
  return value

/-- `_reject_removed_fields`. -/
def rejectRemovedFields (value : JsonObject) (fields : List String)
    (context : String) : Except PyError Unit :=
  let removed := fields.filter (· ∈ value.map Prod.fst)
  require (removed = [])
    (configError (s!"{context} contains removed fields: " ++
      ", ".intercalate removed.mergeSort))

/-- `_positive_uint64`. -/
def positiveUint64 (value : Option Json) (field : String) :
    Except PyError Nat :=
  (requireUint64 value field true).mapError fun exc =>
    .raisedFrom .configError exc.message exc

/-- `_positive_int`. -/
def positiveInt (value : Option Json) (field : String) : Except PyError Nat :=
  match value with
  | some (.int number) =>
      if number ≤ 0 then
        .error (configError s!"{field} must be a positive integer")
      else
        .ok number.toNat
  | _ => .error (configError s!"{field} must be a positive integer")

/-- `_non_negative_int`. -/
def nonNegativeInt (value : Option Json) (field : String) :
    Except PyError Nat :=
  match value with
  | some (.int number) =>
      if number < 0 then
        .error (configError s!"{field} must be a non-negative integer")
      else
        .ok number.toNat
  | _ => .error (configError s!"{field} must be a non-negative integer")

/-- The least integer that `float` refuses: it rounds to `2 ^ 1024`. -/
def floatOverflow : Int := 2 ^ 1024 - 2 ^ 970

/-- `_positive_number`; its result is not used. -/
def positiveNumber (value : Option Json) (field : String) :
    Except PyError Unit :=
  match value with
  | some (.int number) => do
      require (-floatOverflow < number ∧ number < floatOverflow)
        (.raised (.other "OverflowError") "int too large to convert to float")
      require (0 < number)
        (configError s!"{field} must be a positive number")
  | some (.float mantissa _) =>
      require (0 < mantissa)
        (configError s!"{field} must be a positive number")
  | _ => .error (configError s!"{field} must be a positive number")

/-- The check of the three lists before their loops. -/
def nonEmptyArray (value : Option Json) (field : String) :
    Except PyError (List Json) :=
  match value with
  | some (.arr (first :: rest)) => .ok (first :: rest)
  | _ => .error (configError s!"{field} must be a non-empty array")

/-! ## Sections of the document -/

/-- The `worker` section. -/
def parseWorker (raw : JsonObject) : Except PyError WorkerConfig := do
  let workerRaw ← obj (Items.get? "worker" raw) "worker"
  let principal ← positiveUint64 (Items.get? "principal" workerRaw)
    "worker.principal"
  let token ← str (Items.get? "token" workerRaw) "worker.token"
  verify (nonNegativeInt (getOr "shutdown_timeout_ms" (.int 10000) workerRaw)
    "worker.shutdown_timeout_ms")
  return { principal, token }

/-- The `openevent` section. -/
def checkOpenevent (raw : JsonObject) : Except PyError Unit := do
  let openeventRaw ← obj (Items.get? "openevent" raw) "openevent"
  rejectRemovedFields openeventRaw ["rpc_timeout_seconds"] "openevent"
  verify (str (Items.get? "target" openeventRaw) "openevent.target")

/-- The `retry` section. -/
def parseRetry (raw : JsonObject) : Except PyError RetryConfig := do
  let retryRaw ← obj (getOr "retry" (.obj []) raw) "retry"
  rejectRemovedFields retryRaw
    ["provider_send_max_attempts", "provider_send_retry_delay_ms",
      "publish_initial_backoff_ms", "publish_max_backoff_ms"] "retry"
  let publishMaxAttempts ← positiveInt
    (getOr "publish_max_attempts" (.int 5) retryRaw)
    "retry.publish_max_attempts"
  let publishRetryDelayMs ← nonNegativeInt
    (getOr "publish_retry_delay_ms" (.int 200) retryRaw)
    "retry.publish_retry_delay_ms"
  let idleSleepMs ← nonNegativeInt
    (getOr "idle_sleep_ms" (.int 200) retryRaw) "retry.idle_sleep_ms"
  return { publishMaxAttempts, publishRetryDelayMs, idleSleepMs }

/-- The body of the loop of `_parse_principal_tokens`. -/
def addPrincipalToken (workerPrincipal : Nat) (result : Dict Nat String)
    (item : Json × Nat) : Except PyError (Dict Nat String) := do
  let context := s!"principal_tokens[{item.2}]"
  let fields ← obj (some item.1) context
  let principal ← positiveUint64 (Items.get? "principal" fields)
    s!"{context}.principal"
  require (principal ≠ workerPrincipal)
    (configError "principal_tokens must not contain worker.principal")
  require (principal ∉ result.keys)
    (configError "duplicate principal_tokens[].principal")
  let token ← str (Items.get? "token" fields) s!"{context}.token"
  return result.set principal token

/-- `_parse_principal_tokens`. -/
def parsePrincipalTokens (raw : Option Json) (workerPrincipal : Nat) :
    Except PyError (Dict Nat String) := do
  let items ← nonEmptyArray raw "principal_tokens"
  items.zipIdx.foldlM (addPrincipalToken workerPrincipal) ∅

/-- `LARK_OPENAPI_PROVIDERS`. -/
def larkOpenapiProviders : List String := ["feishu", "lark"]

/-- A provider with the application that its credentials name. -/
structure ParsedProvider where
  config : ProviderConfig
  appId : String

/-- The `sync` section of a provider, with its page size. -/
def parseSync (syncRaw : JsonObject) (context : String) :
    Except PyError (ProviderSyncConfig × Nat) := do
  let historyRetryDelayMs ← nonNegativeInt
    (getOr "history_retry_delay_ms" (.int 1000) syncRaw)
    s!"{context}.history_retry_delay_ms"
  let historyOverlapMs ← nonNegativeInt
    (getOr "history_overlap_ms" (.int 300000) syncRaw)
    s!"{context}.history_overlap_ms"
  let historyLookbackMs ← positiveInt
    (getOr "history_lookback_ms" (.int 300000) syncRaw)
    s!"{context}.history_lookback_ms"
  let pageSize ← positiveInt (getOr "page_size" (.int 50) syncRaw)
    s!"{context}.page_size"
  let eventQueueSize ← positiveInt
    (getOr "event_queue_size" (.int 1000) syncRaw)
    s!"{context}.event_queue_size"
  let sync : ProviderSyncConfig := {
    historyRetryDelayMs, historyOverlapMs, historyLookbackMs
    eventQueueSize }
  return (sync, pageSize)

/-- A check of an option, made when the option is there. -/
def checkOption (check : Option Json → String → Except PyError Unit)
    (options : JsonObject) (context key : String) : Except PyError Unit :=
  whenever (key ∈ options.map Prod.fst)
    (check (Items.get? key options) s!"{context}.{key}")

/-- The body of the loop of `_parse_providers`. -/
def addProvider (result : Dict String ParsedProvider) (item : Json × Nat) :
    Except PyError (Dict String ParsedProvider) := do
  let context := s!"providers[{item.2}]"
  let fields ← obj (some item.1) context
  rejectRemovedFields fields ["adapter", "enabled"] context
  let name ← str (Items.get? "name" fields) s!"{context}.name"
  require (name ∈ larkOpenapiProviders)
    (configError s!"{context}.name must be feishu or lark")
  require (name ∉ result.keys) (configError "duplicate providers[].name")
  let syncRaw ← obj (Items.get? "sync" fields) s!"{context}.sync"
  rejectRemovedFields syncRaw
    ["mode", "interval_ms", "startup_lookback_ms", "history_interval_ms"]
    s!"{context}.sync"
  let (sync, pageSize) ← parseSync syncRaw s!"{context}.sync"
  let credentials ← obj (Items.get? "credentials" fields)
    s!"{context}.credentials"
  require (pageSize ≤ 50)
    (configError s!"{context}.sync.page_size must be at most 50")
  let appId ← str (Items.get? "app_id" credentials)
    s!"{context}.credentials.app_id"
  verify (str (Items.get? "app_secret" credentials)
    s!"{context}.credentials.app_secret")
  let options ← obj (getOr "options" (.obj []) fields) s!"{context}.options"
  checkOption (fun value field => verify (str value field)) options
    s!"{context}.options" "api_base_url"
  checkOption positiveNumber options s!"{context}.options" "timeout_seconds"
  checkOption positiveNumber options s!"{context}.options"
    "event_connect_timeout_seconds"
  checkOption positiveNumber options s!"{context}.options"
    "event_reconnect_timeout_seconds"
  return result.set name { config := { name, sync }, appId }

/-- `_parse_providers`. -/
def parseProviders (raw : Option Json) :
    Except PyError (Dict String ParsedProvider) := do
  let items ← nonEmptyArray raw "providers"
  items.zipIdx.foldlM addProvider ∅

/-- The body of the loop of `_parse_mappings`. -/
def parseMapping (item : Json × Nat) : Except PyError MappingEntry := do
  let context := s!"mappings[{item.2}]"
  let fields ← obj (some item.1) context
  rejectRemovedFields fields ["status"] context
  let provider ← str (Items.get? "provider" fields) s!"{context}.provider"
  let identityType ← identityType (getOr "identity_type" (.str "user") fields)
    s!"{context}.identity_type"
  let externalUserId ← str (Items.get? "external_user_id" fields)
    s!"{context}.external_user_id"
  let principal ← positiveUint64 (Items.get? "principal" fields)
    s!"{context}.principal"
  let sessionId ← str (Items.get? "session_id" fields)
    s!"{context}.session_id"
  let channelId ← positiveUint64 (Items.get? "channel_id" fields)
    s!"{context}.channel_id"
  return {
    provider, identityType, externalUserId, principal, sessionId
    channelId }

/-- `_parse_mappings`. -/
def parseMappings (raw : Option Json) :
    Except PyError (List MappingEntry) := do
  let items ← nonEmptyArray raw "mappings"
  items.zipIdx.mapM parseMapping

/-- The body of the loop of `_validate_provider_refs`. -/
def validateProviderRef (providers : Dict String ParsedProvider)
    (mapping : MappingEntry) : Except PyError Unit :=
  match providers.get? mapping.provider with
  | none => .error (configError
      s!"mapping references unknown provider: {mapping.provider}")
  | some provider =>
      require (mapping.identityType = "bot" →
          mapping.externalUserId = provider.appId)
        (configError
          s!"bot mapping for {mapping.provider} must use credentials.app_id")

/-- `_validate_provider_refs`. -/
def validateProviderRefs (providers : Dict String ParsedProvider)
    (mappings : List MappingEntry) : Except PyError Unit :=
  mappings.forM (validateProviderRef providers)

/-- The check that the root of the document is a mapping. -/
def requireRoot (raw : Json) : Except PyError JsonObject :=
  match raw with
  | .obj fields => .ok fields
  | _ => .error (configError "config root must be a YAML mapping")

/-- `parse_config`. -/
def parseConfig (raw : Json) : Except PyError SyncerConfig := do
  let raw ← requireRoot raw
  let version ← str (Items.get? "version" raw) "version"
  require (version = "v1") (configError "version must be v1")
  let worker ← parseWorker raw
  checkOpenevent raw
  let retry ← parseRetry raw
  let principalTokens ← parsePrincipalTokens
    (Items.get? "principal_tokens" raw) worker.principal
  let providers ← parseProviders (Items.get? "providers" raw)
  require (providers.items.length ≤ 1)
    (configError "only one feishu/lark provider is supported per worker")
  let mappings ← parseMappings (Items.get? "mappings" raw)
  validateProviderRefs providers mappings
  verify (obj (getOr "logging" (.obj []) raw) "logging")
  return {
    worker, retry, principalTokens, mappings
    providers := providers.mapValues ParsedProvider.config }

/-! ## What an accepted configuration satisfies -/

/-- What the parser establishes beyond the types of the fields. -/
structure Accepted (config : SyncerConfig) : Prop where
  workerExcluded :
    config.principalTokens.get? config.worker.principal = none
  oneProvider : config.providers.items.length ≤ 1
  providersKnown : ∀ entry ∈ config.mappings,
    entry.provider ∈ config.providers.keys
  identityTypes : ∀ entry ∈ config.mappings,
    entry.identityType = "user" ∨ entry.identityType = "bot"

theorem get?_parsePrincipalTokens {raw : Option Json} {workerPrincipal : Nat}
    {tokens : Dict Nat String}
    (parsed : parsePrincipalTokens raw workerPrincipal = .ok tokens) :
    tokens.get? workerPrincipal = none := by
  rw [parsePrincipalTokens, bind_eq_ok_iff] at parsed
  rcases parsed with ⟨items, -, ran⟩
  apply foldlM_induct (fun _ result => result.get? workerPrincipal = none) ran
  · exact Dict.get?_empty workerPrincipal
  · intro done item before after _ absent stepped
    simp only [addPrincipalToken, bind_eq_ok_iff, ↓unit_bind_eq_ok_iff,
      require_eq_ok_iff] at stepped
    rcases stepped with ⟨_, -, principal, -, different, -, _, -, stored⟩
    cases stored
    rw [Dict.get?_set_of_ne _ _ different]
    exact absent

theorem identityType_parseMapping {item : Json × Nat} {entry : MappingEntry}
    (parsed : parseMapping item = .ok entry) :
    entry.identityType = "user" ∨ entry.identityType = "bot" := by
  simp only [parseMapping, identityType, bind_eq_ok_iff, ↓unit_bind_eq_ok_iff,
    require_eq_ok_iff] at parsed
  rcases parsed with ⟨_, -, -, _, -, _, ⟨_, -, known, same⟩, _, -, _, -,
    _, -, _, -, built⟩
  cases same
  cases built
  exact known

/-- A list of checks succeeds exactly when each of them does. -/
theorem forM_eq_ok_iff {Item Failure : Type}
    {check : Item → Except Failure Unit} {items : List Item} :
    items.forM check = .ok () ↔ ∀ item ∈ items, check item = .ok () := by
  induction items with
  | nil => exact iff_of_true rfl (by simp)
  | cons item rest ih =>
      rw [List.forM_eq_forM, List.forM_cons, unit_bind_eq_ok_iff,
        ← List.forM_eq_forM, ih, List.forall_mem_cons]

/-- Every result of a list of computations comes from one of the items. -/
theorem exists_of_mem_mapM {Item Result Failure : Type}
    {compute : Item → Except Failure Result} {items : List Item}
    {results : List Result} (computed : items.mapM compute = .ok results)
    {result : Result} (member : result ∈ results) :
    ∃ item ∈ items, compute item = .ok result := by
  induction items generalizing results with
  | nil =>
      cases computed
      exact absurd member List.not_mem_nil
  | cons item rest ih =>
      rw [List.mapM_cons, bind_eq_ok_iff] at computed
      rcases computed with ⟨first, firstComputed, later⟩
      rw [bind_eq_ok_iff] at later
      rcases later with ⟨others, othersComputed, built⟩
      cases built
      rcases List.mem_cons.mp member with same | later
      · rw [same]
        exact ⟨item, List.mem_cons_self, firstComputed⟩
      · rcases ih othersComputed later with ⟨source, sourceMember, found⟩
        exact ⟨source, List.mem_cons_of_mem _ sourceMember, found⟩

theorem parseConfig_accepted {raw : Json} {config : SyncerConfig}
    (parsed : parseConfig raw = .ok config) : Accepted config := by
  simp only [parseConfig, bind_eq_ok_iff, ↓unit_bind_eq_ok_iff,
    require_eq_ok_iff] at parsed
  rcases parsed with ⟨_, -, _, -, -, worker, -, -, retry, -, tokens,
    tokensParsed, providers, -, oneProvider, mappings, mappingsParsed,
    refsChecked, -, built⟩
  cases built
  refine ⟨get?_parsePrincipalTokens tokensParsed, ?_, ?_, ?_⟩
  · rw [Dict.mapValues, List.length_map]
    exact oneProvider
  · intro entry member
    have checked := forM_eq_ok_iff.mp refsChecked entry member
    rw [Dict.keys_mapValues]
    unfold validateProviderRef at checked
    split at checked
    · cases checked
    · rename_i provider found
      exact Dict.mem_keys_iff.mpr ⟨provider, found⟩
  · intro entry member
    rw [parseMappings, bind_eq_ok_iff] at mappingsParsed
    rcases mappingsParsed with ⟨items, -, mapped⟩
    rcases exists_of_mem_mapM mapped member with ⟨item, -, found⟩
    exact identityType_parseMapping found

end OpenEventIm.Syncer.Config
