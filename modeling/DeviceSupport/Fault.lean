import DeviceSupport.Status

/-! What can go wrong, by cause.

`Fault.message` words a fault, `Fault.status` classes it, and `Fault.statusCode` is the number
that callers see: the class's code, but a kernel code outside the known set as it came. -/
namespace DeviceSupport
set_option autoImplicit false

/-- Why a path led to nothing that could be read or written. -/
inductive FileFault where
  | notFound
  | notDirectory
  | isDirectory
  | nameTooLong
  /-- A NUL ends a path for the system, so none may stand in one. -/
  | nulInPath
  deriving DecidableEq, Repr, Inhabited

def FileFault.message : FileFault → String
  | .notFound => "No such file or directory (os error 2)"
  | .notDirectory => "Not a directory (os error 20)"
  | .isDirectory => "Is a directory (os error 21)"
  | .nameTooLong => "File name too long (os error 36)"
  | .nulInPath => "file name contained an unexpected NUL byte"

inductive Fault where
  /-- A package without domains. -/
  | missingDomain
  | packageShort (record : String) (offset needed available : Nat)
  | recordSizeInvalid (record : String) (offset : Nat) (size : UInt32)
  | unresolvedRecord (what : String)
  | resourceExhausted (what : String) (count limit : UInt32)
  | malformedPackage (detail : String)
  | participantNotFound (id : UInt8)
  /-- The participant has no profile bound. -/
  | needProfile (id : UInt8)
  | primitiveNotFound (profile : String) (id : UInt16) (domain : String) (instanceId : UInt8)
  | unsupportedActionType (actionType : UInt32)
  | needLargerBuffer (needed : UInt32)
  | parameterIsNull (what : String)
  | parameterOutOfBounds (what : String)
  | messageInvalid (detail : String)
  | timeout (what : String)
  /-- A known status that a peer answered. -/
  | peerStatus (status : Status)
  /-- A kernel code outside the known set. -/
  | kernelStatus (code : UInt32)
  | needAlgorithm (actionType : UInt32)
  | unsupportedAlgorithm (kind : UInt32)
  | fileUnreadable (path : String) (cause : FileFault)
  | fileTooLarge (path : String) (size limit : UInt64)
  | configuration (detail : String)
  /-- Text that is no JSON form of what was asked for. -/
  | jsonInvalid
  | unclassified (detail : String)
  | notSupported (what : String)
  deriving DecidableEq, Repr, Inhabited

namespace Fault

def message : Fault → String
  | .missingDomain => "DSP package declares no domains"
  | .packageShort record offset needed available =>
    s!"DSP package truncated: {record} at offset {offset} needs {needed} bytes, " ++
      s!"{available} available"
  | .recordSizeInvalid record offset size => s!"Invalid {record} size {size} at offset {offset}"
  | .unresolvedRecord what => s!"Record could not be resolved: {what}"
  | .resourceExhausted what count limit =>
    s!"Resource limit exceeded: {what} count {count} (max {limit})"
  | .malformedPackage detail => s!"Malformed DSP package: {detail}"
  | .participantNotFound id => s!"Participant not found: {id}"
  | .needProfile id => s!"Participant {id} has no DSP bound"
  | .primitiveNotFound profile id domain instanceId =>
    s!"Primitive {id} domain {domain} instance {instanceId} not found in DSP {profile}"
  | .unsupportedActionType actionType => s!"Unsupported action type: {actionType}"
  | .needLargerBuffer needed => s!"Response buffer too small: {needed} bytes required"
  | .parameterIsNull what => s!"Parameter is null: {what}"
  | .parameterOutOfBounds what => s!"Parameter out of bounds: {what}"
  | .messageInvalid detail => s!"IPC data invalid: {detail}"
  | .timeout what => s!"Operation timed out: {what}"
  | .peerStatus status => s!"Collaborator returned status {status}"
  | .kernelStatus code => s!"Kernel returned status {code}"
  | .needAlgorithm actionType => s!"No algorithm registered for action type {actionType}"
  | .unsupportedAlgorithm kind => s!"Unsupported algorithm kind: {kind}"
  | .fileUnreadable path cause => s!"Failed to read file {path}: {cause.message}"
  | .fileTooLarge path size limit => s!"File too large: {path} ({size} bytes, max {limit} bytes)"
  | .configuration detail => s!"Configuration error: {detail}"
  | .jsonInvalid => "Failed to parse JSON"
  | .unclassified detail => detail
  | .notSupported what => s!"Operation not supported: {what}"

def status : Fault → Status
  | .missingDomain => .parameterIsNull
  | .packageShort .. => .packageShort
  | .recordSizeInvalid record .. =>
    if record = "primitive" then .primitiveSizeInvalid else .packageSizeInvalid
  | .unresolvedRecord _ => .nullPrimitive
  | .resourceExhausted .. => .noMemory
  | .malformedPackage _ => .packageSizeInvalid
  | .participantNotFound _ => .participantNotFound
  | .needProfile _ => .needProfile
  | .primitiveNotFound .. => .primitiveNotFound
  | .unsupportedActionType _ => .unsupportedActionType
  | .needLargerBuffer _ => .needLargerBuffer
  | .parameterIsNull _ => .parameterIsNull
  | .parameterOutOfBounds _ => .parameterOutOfBounds
  | .messageInvalid _ => .messageInvalid
  | .timeout _ => .timeout
  | .peerStatus status => status
  | .kernelStatus _ => .unspecified
  | .needAlgorithm _ => .needAlgorithm
  | .unsupportedAlgorithm _ => .unsupportedAlgorithm
  | .notSupported _ => .notSupported
  | .fileUnreadable .. | .fileTooLarge .. | .configuration _ | .jsonInvalid | .unclassified _ =>
    .unspecified

def statusCode : Fault → UInt32
  | .kernelStatus code => code
  | fault => fault.status.code

/-- The faults that keep a single package from loading. -/
def isPackageFault : Fault → Bool
  | .missingDomain | .packageShort .. | .recordSizeInvalid .. | .unresolvedRecord _
  | .resourceExhausted .. | .malformedPackage _ => true
  | _ => false

/-- The fault and, where another one lies under it, that one's text as well. -/
def chain (fault : Fault) : List String :=
  match fault with
  | .fileUnreadable _ cause => [fault.message, cause.message]
  | _ => [fault.message]

end Fault

/-- What a peer's status means to its caller; `needed` is the size the peer asks for. -/
def Status.toResult (status : Status) (needed : UInt32) : Except Fault Unit :=
  match status with
  | .ok => .ok ()
  | .needLargerBuffer => .error (.needLargerBuffer needed)
  | other => .error (.peerStatus other)

end DeviceSupport
