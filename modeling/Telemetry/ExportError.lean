import Telemetry.Decimal.Integer

/-! What can go wrong with an export, and the wording of each failure. A telemetry pipeline that drives
an exporter is told less: that the exporter is shut down, or that some operation failed. -/
namespace Telemetry

inductive SinkErrorKind where
  | addressInUse
  | addressNotAvailable
  | alreadyExists
  | argumentsTooLong
  | brokenPipe
  | connectionAborted
  | connectionRefused
  | connectionReset
  | acrossDevices
  | deadlock
  | directoryNotEmpty
  | executableBusy
  | fileTooLarge
  | hostUnreachable
  | invalidData
  | invalidFilename
  | invalidInput
  | isDirectory
  | networkDown
  | networkUnreachable
  | notADirectory
  | notConnected
  | notFound
  | notSeekable
  | other
  | outOfMemory
  | permissionDenied
  | quotaExceeded
  | readOnly
  | resourceBusy
  | staleHandle
  | storageFull
  | timedOut
  | tooManyLinks
  | unexpectedEnd
  | unsupported
  | wouldBlock
  | writeZero
  deriving DecidableEq

namespace SinkErrorKind

def table : List (SinkErrorKind × String × String) :=
  [(.addressInUse, "AddrInUse", "address in use"),
    (.addressNotAvailable, "AddrNotAvailable", "address not available"),
    (.alreadyExists, "AlreadyExists", "entity already exists"),
    (.argumentsTooLong, "ArgumentListTooLong", "argument list too long"),
    (.brokenPipe, "BrokenPipe", "broken pipe"),
    (.connectionAborted, "ConnectionAborted", "connection aborted"),
    (.connectionRefused, "ConnectionRefused", "connection refused"),
    (.connectionReset, "ConnectionReset", "connection reset"),
    (.acrossDevices, "CrossesDevices", "cross-device link or rename"),
    (.deadlock, "Deadlock", "deadlock"),
    (.directoryNotEmpty, "DirectoryNotEmpty", "directory not empty"),
    (.executableBusy, "ExecutableFileBusy", "executable file busy"),
    (.fileTooLarge, "FileTooLarge", "file too large"),
    (.hostUnreachable, "HostUnreachable", "host unreachable"),
    (.invalidData, "InvalidData", "invalid data"),
    (.invalidFilename, "InvalidFilename", "invalid filename"),
    (.invalidInput, "InvalidInput", "invalid input parameter"),
    (.isDirectory, "IsADirectory", "is a directory"),
    (.networkDown, "NetworkDown", "network down"),
    (.networkUnreachable, "NetworkUnreachable", "network unreachable"),
    (.notADirectory, "NotADirectory", "not a directory"),
    (.notConnected, "NotConnected", "not connected"),
    (.notFound, "NotFound", "entity not found"),
    (.notSeekable, "NotSeekable", "seek on unseekable file"),
    (.other, "Other", "other error"),
    (.outOfMemory, "OutOfMemory", "out of memory"),
    (.permissionDenied, "PermissionDenied", "permission denied"),
    (.quotaExceeded, "QuotaExceeded", "quota exceeded"),
    (.readOnly, "ReadOnlyFilesystem", "read-only filesystem or storage medium"),
    (.resourceBusy, "ResourceBusy", "resource busy"),
    (.staleHandle, "StaleNetworkFileHandle", "stale network file handle"),
    (.storageFull, "StorageFull", "no storage space"),
    (.timedOut, "TimedOut", "timed out"),
    (.tooManyLinks, "TooManyLinks", "too many links"),
    (.unexpectedEnd, "UnexpectedEof", "unexpected end of file"),
    (.unsupported, "Unsupported", "unsupported"),
    (.wouldBlock, "WouldBlock", "operation would block"),
    (.writeZero, "WriteZero", "write zero")]

def name (kind : SinkErrorKind) : String :=
  ((table.find? (·.1 = kind)).map (·.2.1)).getD ""

def description (kind : SinkErrorKind) : String :=
  ((table.find? (·.1 = kind)).map (·.2.2)).getD ""

def ofName? (name : String) : Option SinkErrorKind :=
  (table.find? (·.2.1 = name)).map (·.1)

end SinkErrorKind

structure SinkError where
  kind : SinkErrorKind
  message : String
  deriving DecidableEq

inductive ExportError where
  | sink (error : SinkError)
  | unsupportedValue (reason : String)
  | invalidHistogram (bounds buckets : Nat)
  | alreadyShutdown
  | other (reason : String)
  deriving DecidableEq

inductive PipelineError where
  | alreadyShutdown
  | internalFailure (reason : String)
  deriving DecidableEq

namespace ExportError

def message : ExportError → String
  | .sink error => "failed to write OTLP/JSON document: " ++ error.message
  | .unsupportedValue reason => "unsupported attribute value: " ++ reason
  | .invalidHistogram bounds buckets =>
    "histogram has " ++ Decimal.natural buckets ++ " bucket counts for " ++ Decimal.natural bounds ++
      " explicit bounds, expected " ++ Decimal.natural (bounds + 1)
  | .alreadyShutdown => "exporter is shut down"
  | .other reason => reason

def poisoned : ExportError :=
  .other "sink lock poisoned: poisoned lock: another task failed inside"

def toPipeline : ExportError → PipelineError
  | .alreadyShutdown => .alreadyShutdown
  | error => .internalFailure error.message

end ExportError

def PipelineError.message : PipelineError → String
  | .alreadyShutdown => "Shutdown already invoked"
  | .internalFailure reason => "Operation failed: " ++ reason

end Telemetry
