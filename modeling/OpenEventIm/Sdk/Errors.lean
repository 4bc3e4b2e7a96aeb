import Mathlib.Data.Finset.Insert

/-!
# Exceptions

Every exception class that the modelled code raises, catches or inspects is a
constructor of `ErrorClass`; an exception is a class, a message and possibly the
exception it was raised `from`.  The two status functions are the two the code
has: the SDK client looks only at the exception itself, the processor walks the
chain of causes.
-/

namespace OpenEventIm.Sdk.Errors

/-- gRPC status codes. -/
inductive StatusCode where
  | ok
  | cancelled
  | unknown
  | invalidArgument
  | deadlineExceeded
  | notFound
  | alreadyExists
  | permissionDenied
  | resourceExhausted
  | failedPrecondition
  | aborted
  | outOfRange
  | unimplemented
  | internal
  | unavailable
  | dataLoss
  | unauthenticated
deriving DecidableEq, Repr

/-- Exception classes, with the data the code reads from them. -/
inductive ErrorClass where
  /-- `grpc.RpcError`; the code is absent when `code()` itself raises. -/
  | rpcError (code : Option StatusCode)
  | malformedPayloadError
  | invalidKindError
  | publishFailedError (retrySafe outcomeUnknown : Bool)
  | stateConflictError
  | configError
  | transientProviderError
  | permanentProviderError
  | providerDataError
  | fatalSyncerError
  | syncerStopped
  | runtimeError
  | valueError
  | keyError
  /-- Any other exception class of an injected client or adapter. -/
  | other (name : String)
deriving DecidableEq, Repr

/-- A raised exception, with its `__cause__` when it was raised `from` one. -/
inductive PyError where
  | raised (cls : ErrorClass) (message : String)
  | raisedFrom (cls : ErrorClass) (message : String) (cause : PyError)
deriving DecidableEq, Repr

namespace PyError

def cls : PyError → ErrorClass
  | .raised cls _ => cls
  | .raisedFrom cls _ _ => cls

/-- `str(exc)`. -/
def message : PyError → String
  | .raised _ message => message
  | .raisedFrom _ message _ => message

end PyError

/-- `type(exc).__name__`. -/
def ErrorClass.name : ErrorClass → String
  | .rpcError _ => "RpcError"
  | .malformedPayloadError => "MalformedPayloadError"
  | .invalidKindError => "InvalidKindError"
  | .publishFailedError _ _ => "PublishFailedError"
  | .stateConflictError => "StateConflictError"
  | .configError => "ConfigError"
  | .transientProviderError => "TransientProviderError"
  | .permanentProviderError => "PermanentProviderError"
  | .providerDataError => "ProviderDataError"
  | .fatalSyncerError => "FatalSyncerError"
  | .syncerStopped => "SyncerStopped"
  | .runtimeError => "RuntimeError"
  | .valueError => "ValueError"
  | .keyError => "KeyError"
  | .other name => name

/-- `ImProtocolError` and its subclasses. -/
def ErrorClass.isImProtocolError : ErrorClass → Bool
  | .malformedPayloadError => true
  | .invalidKindError => true
  | _ => false

/-- `isinstance(exc, PublishFailedError)`. -/
def PyError.isPublishFailedError (error : PyError) : Bool :=
  match error.cls with
  | .publishFailedError _ _ => true
  | _ => false

/-- `exc.retry_safe` of a `PublishFailedError`. -/
def PyError.retrySafe (error : PyError) : Bool :=
  match error.cls with
  | .publishFailedError retrySafe _ => retrySafe
  | _ => false

/-- `exc.outcome_unknown` of a `PublishFailedError`. -/
def PyError.outcomeUnknown (error : PyError) : Bool :=
  match error.cls with
  | .publishFailedError _ outcomeUnknown => outcomeUnknown
  | _ => false

/-- `im_sdk.client._rpc_status_code`: the status of the exception itself. -/
def rpcStatusCode (error : PyError) : Option StatusCode :=
  match error.cls with
  | .rpcError code => code
  | _ => none

/--
`im_p2p_syncer.loop._rpc_status_code`: the status of the first `RpcError` along
the chain of causes.
-/
def causeStatusCode : PyError → Option StatusCode
  | .raised (.rpcError code) _ => code
  | .raised _ _ => none
  | .raisedFrom (.rpcError code) _ _ => code
  | .raisedFrom _ _ cause => causeStatusCode cause

/-- The status of an exception is also the first one along its causes. -/
theorem causeStatusCode_of_rpcStatusCode {error : PyError}
    {code : StatusCode} (status : rpcStatusCode error = some code) :
    causeStatusCode error = some code := by
  cases error with
  | raised cls message =>
      cases cls with
      | rpcError _ => exact status
      | _ => cases status
  | raisedFrom cls message cause =>
      cases cls with
      | rpcError _ => exact status
      | _ => cases status

/--
The exception is an `RpcError` itself, or none is hidden in its causes: what an
OpenEvent client raises when it does not wrap the RPC library's exceptions.
-/
def RaisedDirectly (error : PyError) : Prop :=
  causeStatusCode error = rpcStatusCode error

instance (error : PyError) : Decidable (RaisedDirectly error) :=
  inferInstanceAs (Decidable (_ = _))

/-- `_GUARANTEED_NOT_COMMITTED`. -/
def guaranteedNotCommitted : Finset StatusCode :=
  {.unauthenticated, .permissionDenied, .notFound, .invalidArgument,
    .resourceExhausted}

/-- The status of the exception itself rules out a commit. -/
def ProvesNotCommitted (error : PyError) : Prop :=
  ∃ code ∈ guaranteedNotCommitted, rpcStatusCode error = some code

instance (error : PyError) : Decidable (ProvesNotCommitted error) :=
  inferInstanceAs (Decidable (∃ code ∈ guaranteedNotCommitted, _))

end OpenEventIm.Sdk.Errors
