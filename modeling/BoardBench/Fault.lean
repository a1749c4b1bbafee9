/-!
# Faults of the operating system

What a read, a write or a system call reports when it does not work: a kind and a text.
-/

namespace BoardBench

/-- What sort of thing went wrong. -/
inductive FaultKind where
  | notFound | permissionDenied | connectionRefused | connectionReset | hostUnreachable
  | networkUnreachable | connectionAborted | notConnected | addrInUse | addrNotAvailable
  | networkDown | brokenPipe | alreadyExists | wouldBlock | notADirectory | isADirectory
  | directoryNotEmpty | readOnlyFilesystem | staleNetworkFileHandle | invalidInput | invalidData
  | timedOut | writeZero | storageFull | notSeekable | quotaExceeded | fileTooLarge | resourceBusy
  | executableFileBusy | deadlock | crossesDevices | tooManyLinks | invalidFilename
  | argumentListTooLong | interrupted | unsupported | unexpectedEof | outOfMemory | other
  deriving DecidableEq, Repr

namespace FaultKind

/-- The kinds with their names. -/
def names : List (FaultKind × String) := [
  (notFound, "NotFound"), (permissionDenied, "PermissionDenied"),
  (connectionRefused, "ConnectionRefused"), (connectionReset, "ConnectionReset"),
  (hostUnreachable, "HostUnreachable"), (networkUnreachable, "NetworkUnreachable"),
  (connectionAborted, "ConnectionAborted"), (notConnected, "NotConnected"),
  (addrInUse, "AddrInUse"), (addrNotAvailable, "AddrNotAvailable"), (networkDown, "NetworkDown"),
  (brokenPipe, "BrokenPipe"), (alreadyExists, "AlreadyExists"), (wouldBlock, "WouldBlock"),
  (notADirectory, "NotADirectory"), (isADirectory, "IsADirectory"),
  (directoryNotEmpty, "DirectoryNotEmpty"), (readOnlyFilesystem, "ReadOnlyFilesystem"),
  (staleNetworkFileHandle, "StaleNetworkFileHandle"), (invalidInput, "InvalidInput"),
  (invalidData, "InvalidData"), (timedOut, "TimedOut"), (writeZero, "WriteZero"),
  (storageFull, "StorageFull"), (notSeekable, "NotSeekable"), (quotaExceeded, "QuotaExceeded"),
  (fileTooLarge, "FileTooLarge"), (resourceBusy, "ResourceBusy"),
  (executableFileBusy, "ExecutableFileBusy"), (deadlock, "Deadlock"),
  (crossesDevices, "CrossesDevices"), (tooManyLinks, "TooManyLinks"),
  (invalidFilename, "InvalidFilename"), (argumentListTooLong, "ArgumentListTooLong"),
  (interrupted, "Interrupted"), (unsupported, "Unsupported"), (unexpectedEof, "UnexpectedEof"),
  (outOfMemory, "OutOfMemory"), (other, "Other")]

/-- The name of a kind. -/
def name (k : FaultKind) : String := ((names.find? (·.1 = k)).map (·.2)).getD "Other"

/-- The kind of a name. -/
def ofName? (s : String) : Option FaultKind := (names.find? (·.2 = s)).map (·.1)

/-- Whether a read that fails so has only come to nothing in time, and the stream goes on. -/
def isIdle : FaultKind → Bool
  | timedOut | wouldBlock | interrupted => true
  | _ => false

end FaultKind

/-- A failed system operation. -/
structure Fault where
  /-- What sort of failure. -/
  kind : FaultKind
  /-- How the system words it. -/
  text : String
  deriving DecidableEq, Repr

namespace Fault

def noSuchFile : Fault := ⟨.notFound, "No such file or directory (os error 2)"⟩
def permissionDenied : Fault := ⟨.permissionDenied, "Permission denied (os error 13)"⟩
def isDirectory : Fault := ⟨.isADirectory, "Is a directory (os error 21)"⟩
def notDirectory : Fault := ⟨.notADirectory, "Not a directory (os error 20)"⟩
def noSpace : Fault := ⟨.storageFull, "No space left on device (os error 28)"⟩
def brokenPipe : Fault := ⟨.brokenPipe, "Broken pipe (os error 32)"⟩

end Fault
end BoardBench
