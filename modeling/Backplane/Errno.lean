/-!
# System error numbers

The numbers a system call fails with, the text that goes with each, and failures of input and
output in general: most carry a number, a few only a text.
-/
namespace Backplane

/-- Texts of the error numbers from 0 on. Two numbers in the middle have none. -/
def errnoTexts : List String := [
  "Success", "Operation not permitted", "No such file or directory", "No such process",
  "Interrupted system call", "Input/output error", "No such device or address",
  "Argument list too long", "Exec format error", "Bad file descriptor", "No child processes",
  "Resource temporarily unavailable", "Cannot allocate memory", "Permission denied",
  "Bad address", "Block device required", "Device or resource busy", "File exists",
  "Invalid cross-device link", "No such device", "Not a directory", "Is a directory",
  "Invalid argument", "Too many open files in system", "Too many open files",
  "Inappropriate ioctl for device", "Text file busy", "File too large",
  "No space left on device", "Illegal seek", "Read-only file system", "Too many links",
  "Broken pipe", "Numerical argument out of domain", "Numerical result out of range",
  "Resource deadlock avoided", "File name too long", "No locks available",
  "Function not implemented", "Directory not empty", "Too many levels of symbolic links", "",
  "No message of desired type", "Identifier removed", "Channel number out of range",
  "Level 2 not synchronized", "Level 3 halted", "Level 3 reset", "Link number out of range",
  "Protocol driver not attached", "No CSI structure available", "Level 2 halted",
  "Invalid exchange", "Invalid request descriptor", "Exchange full", "No anode",
  "Invalid request code", "Invalid slot", "", "Bad font file format", "Device not a stream",
  "No data available", "Timer expired", "Out of streams resources",
  "Machine is not on the network", "Package not installed", "Object is remote",
  "Link has been severed", "Advertise error", "Srmount error", "Communication error on send",
  "Protocol error", "Multihop attempted", "RFS specific error", "Bad message",
  "Value too large for defined data type", "Name not unique on network",
  "File descriptor in bad state", "Remote address changed",
  "Can not access a needed shared library", "Accessing a corrupted shared library",
  ".lib section in a.out corrupted", "Attempting to link in too many shared libraries",
  "Cannot exec a shared library directly", "Invalid or incomplete multibyte or wide character",
  "Interrupted system call should be restarted", "Streams pipe error", "Too many users",
  "Socket operation on non-socket", "Destination address required", "Message too long",
  "Protocol wrong type for socket", "Protocol not available", "Protocol not supported",
  "Socket type not supported", "Operation not supported", "Protocol family not supported",
  "Address family not supported by protocol", "Address already in use",
  "Cannot assign requested address", "Network is down", "Network is unreachable",
  "Network dropped connection on reset", "Software caused connection abort",
  "Connection reset by peer", "No buffer space available",
  "Transport endpoint is already connected", "Transport endpoint is not connected",
  "Cannot send after transport endpoint shutdown", "Too many references: cannot splice",
  "Connection timed out", "Connection refused", "Host is down", "No route to host",
  "Operation already in progress", "Operation now in progress", "Stale file handle",
  "Structure needs cleaning", "Not a XENIX named type file", "No XENIX semaphores available",
  "Is a named type file", "Remote I/O error", "Disk quota exceeded", "No medium found",
  "Wrong medium type", "Operation canceled", "Required key not available", "Key has expired",
  "Key has been revoked", "Key was rejected by service", "Owner died", "State not recoverable",
  "Operation not possible due to RF-kill", "Memory page has hardware error"]

/-- The name of an error number, if it has one. -/
def errnoName? : Int → Option String
  | .ofNat n => errnoTexts[n]?.filter fun text => text != ""
  | .negSucc _ => none

/-- The text of an error number. -/
def errnoText (errno : Int) : String := (errnoName? errno).getD s!"Unknown error {errno}"

namespace Errno

/-- No such file or directory. -/
def noEntry : Int := 2
/-- Input/output error, used when a failure carries no number. -/
def io : Int := 5
/-- No such device or address: nothing acknowledged. -/
def noAnswer : Int := 6
/-- File exists. -/
def alreadyExists : Int := 17
/-- No such device. -/
def noDevice : Int := 19
/-- Not a directory. -/
def notDirectory : Int := 20
/-- Is a directory. -/
def isDirectory : Int := 21
/-- Invalid argument. -/
def invalid : Int := 22
/-- The request does not fit the opened file. -/
def notDeviceRequest : Int := 25
/-- File name too long. -/
def nameTooLong : Int := 36

/-- The number under which a failed request on an open device is reported: a number without a name
stands for no error. -/
def reported (errno : Int) : Int := if (errnoName? errno).isSome then errno else 0

end Errno

/-- A failed system operation. -/
inductive IoError where
  /-- It failed with an error number. -/
  | os (errno : Int)
  /-- It failed before the system was asked, for the reason given. -/
  | other (reason : String)
  deriving DecidableEq, Repr

/-- The text shown for a failed system operation. -/
def IoError.message : IoError → String
  | .os errno => s!"{errnoText errno} (os error {errno})"
  | .other reason => reason

/-- The error number, if there is one. -/
def IoError.errno? : IoError → Option Int
  | .os errno => some errno
  | .other _ => none

end Backplane
