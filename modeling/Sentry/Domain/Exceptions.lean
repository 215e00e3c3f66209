import Sentry.Domain.Models

/-!
# Kinds of exceptions

The classes of `app/exceptions.py` as handlers tell them apart.
-/
namespace Sentry

/-- `isinstance(exc, SafetyCriticalError)`. -/
def Exc.isSafetyCritical : Exc → Bool
  | .safetyCritical _ | .submissionUnknown _ | .executionDenied _ | .duplicateOrder _ => true
  | _ => false

/-- `isinstance(exc, DataInvalidError)`. -/
def Exc.isDataInvalid : Exc → Bool
  | .dataInvalid _ => true
  | _ => false

/-- `type(exc).__name__`. -/
def Exc.typeName : Exc → String
  | .dataInvalid _ => "DataInvalidError"
  | .safetyCritical _ => "SafetyCriticalError"
  | .submissionUnknown _ => "SubmissionUnknownError"
  | .executionDenied _ => "ExecutionDenied"
  | .duplicateOrder _ => "DuplicateOrderError"
  | .invalidOrderTransition _ => "InvalidOrderTransition"
  | .transient _ => "TransientError"
  | .authenticationRequired _ => "AuthenticationRequiredError"
  | .valueError _ => "ValueError"
  | .typeError _ => "TypeError"
  | .timeout => "TimeoutError"
  | .connection => "ConnectionError"
  | .osError => "OSError"
  | .cancelled => "CancelledError"
  | .interrupt => "KeyboardInterrupt"
  | .unlisted name => name

/-- `isinstance(exc, TransientError)`. -/
def Exc.isTransient : Exc → Bool
  | .transient _ => true
  | _ => false

end Sentry
