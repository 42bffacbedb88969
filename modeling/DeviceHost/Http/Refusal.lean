import DeviceHost.Service

/-!
# Refusals over HTTP

A request that cannot be carried out is answered with a status, a word for the kind of trouble, and
a sentence. The status follows from the error: what is not there, what is locked, what is not
allowed, what the caller got wrong, and what went wrong on the way to the device.
-/

namespace DeviceHost.Http

/-- The kinds of trouble that are reported. -/
inductive Trouble
  | badRequest
  | notFound
  | methodNotAllowed
  | conflict
  | locked
  | internal
  | notImplemented
  | unavailable
  deriving Repr, DecidableEq

/-- The status of a kind of trouble. -/
def Trouble.status : Trouble → Nat
  | badRequest => 400
  | notFound => 404
  | methodNotAllowed => 405
  | conflict => 409
  | locked => 423
  | internal => 500
  | notImplemented => 501
  | unavailable => 503

/-- The word for a kind of trouble. -/
def Trouble.code : Trouble → String
  | badRequest => "BAD_REQUEST"
  | notFound => "NOT_FOUND"
  | methodNotAllowed => "METHOD_NOT_ALLOWED"
  | conflict => "CONFLICT"
  | locked => "LOCKED"
  | internal => "INTERNAL_ERROR"
  | notImplemented => "NOT_IMPLEMENTED"
  | unavailable => "SERVICE_UNAVAILABLE"

/-- A refusal. -/
structure Refusal where
  /-- the kind of trouble -/
  trouble : Trouble
  /-- what is wrong, in a sentence -/
  message : String
  deriving Repr, DecidableEq

namespace Refusal

/-- The status of a refusal. -/
def status (r : Refusal) : Nat := r.trouble.status

/-- The document of a refusal. -/
def json (r : Refusal) : Json :=
  .object [("code", .string r.trouble.code), ("message", .string r.message)]

/-- The kind of trouble of a command that is not carried out. -/
def troubleOfCommand : CommandError → Trouble
  | .deviceNotFound _ => .notFound
  | .commandNotFound .. => .notFound
  | .deviceLocked _ => .locked
  | .notReadable _ => .methodNotAllowed
  | .notWritable _ => .methodNotAllowed
  | .invalidValue .. => .badRequest
  | .lengthMismatch .. => .badRequest
  | .driver _ => .internal
  | .driverContract _ => .internal

/-- The refusal of a command. -/
def ofCommand (e : CommandError) : Refusal := ⟨troubleOfCommand e, e.message⟩

/-- The kind of trouble of a service that does not do what it is asked to do. -/
def troubleOfService : ServiceError → Trouble
  | .command e => troubleOfCommand e
  | .notRunning => .unavailable
  | .discoveryInProgress => .conflict
  | _ => .internal

/-- The refusal of a service. -/
def ofService (e : ServiceError) : Refusal := ⟨troubleOfService e, e.message⟩

end Refusal

end DeviceHost.Http
