/-!
# Faults of the operating system

A fault comes from the system by its number, or from the runtime in words of its own.
-/

namespace Plotter

/-- Why a file or a process could not be dealt with. -/
inductive SystemFault
  /-- A fault that the system reports by its number. -/
  | numbered (number : Int)
  /-- A fault told in words. -/
  | described (text : String)
  deriving Repr, DecidableEq

namespace SystemFault

/-- The system's words for its faults, from number 1 on. -/
def descriptions : List String :=
  ["Operation not permitted", "No such file or directory", "No such process",
    "Interrupted system call", "Input/output error", "No such device or address",
    "Argument list too long", "Exec format error", "Bad file descriptor", "No child processes",
    "Resource temporarily unavailable", "Cannot allocate memory", "Permission denied",
    "Bad address", "Block device required", "Device or resource busy", "File exists",
    "Invalid cross-device link", "No such device", "Not a directory", "Is a directory",
    "Invalid argument", "Too many open files in system", "Too many open files",
    "Inappropriate ioctl for device", "Text file busy", "File too large",
    "No space left on device", "Illegal seek", "Read-only file system", "Too many links",
    "Broken pipe", "Numerical argument out of domain", "Numerical result out of range",
    "Resource deadlock avoided", "File name too long", "No locks available",
    "Function not implemented", "Directory not empty", "Too many levels of symbolic links",
    "Unknown error 41", "No message of desired type", "Identifier removed",
    "Channel number out of range", "Level 2 not synchronized", "Level 3 halted",
    "Level 3 reset", "Link number out of range", "Protocol driver not attached",
    "No CSI structure available", "Level 2 halted", "Invalid exchange",
    "Invalid request descriptor", "Exchange full", "No anode", "Invalid request code",
    "Invalid slot", "Unknown error 58", "Bad font file format", "Device not a stream",
    "No data available", "Timer expired", "Out of streams resources",
    "Machine is not on the network", "Package not installed", "Object is remote",
    "Link has been severed", "Advertise error", "Srmount error",
    "Communication error on send", "Protocol error", "Multihop attempted",
    "RFS specific error", "Bad message", "Value too large for defined data type",
    "Name not unique on network", "File descriptor in bad state", "Remote address changed",
    "Can not access a needed shared library", "Accessing a corrupted shared library",
    ".lib section in a.out corrupted", "Attempting to link in too many shared libraries",
    "Cannot exec a shared library directly",
    "Invalid or incomplete multibyte or wide character",
    "Interrupted system call should be restarted", "Streams pipe error", "Too many users",
    "Socket operation on non-socket", "Destination address required", "Message too long",
    "Protocol wrong type for socket", "Protocol not available", "Protocol not supported",
    "Socket type not supported", "Operation not supported", "Protocol family not supported",
    "Address family not supported by protocol", "Address already in use",
    "Cannot assign requested address", "Network is down", "Network is unreachable",
    "Network dropped connection on reset", "Software caused connection abort",
    "Connection reset by peer", "No buffer space available",
    "Transport endpoint is already connected", "Transport endpoint is not connected",
    "Cannot send after transport endpoint shutdown", "Too many references: cannot splice",
    "Connection timed out", "Connection refused", "Host is down", "No route to host",
    "Operation already in progress", "Operation now in progress", "Stale file handle",
    "Structure needs cleaning", "Not a XENIX named type file", "No XENIX semaphores available",
    "Is a named type file", "Remote I/O error", "Disk quota exceeded", "No medium found",
    "Wrong medium type", "Operation canceled", "Required key not available",
    "Key has expired", "Key has been revoked", "Key was rejected by service", "Owner died",
    "State not recoverable", "Operation not possible due to RF-kill",
    "Memory page has hardware error"]

/-- The system's words for a number. -/
def description (number : Int) : String :=
  if number = 0 then "Success"
  else
    match if 0 < number then descriptions[number.toNat - 1]? else none with
    | some words => words
    | none => "Unknown error " ++ toString number

/-- The text of a fault. -/
def message : SystemFault → String
  | numbered number => description number ++ " (os error " ++ toString number ++ ")"
  | described text => text

/-- Nothing is at the path. -/
def notFound : SystemFault := numbered 2

/-- The file holds no program. -/
def notAProgram : SystemFault := numbered 8

/-- The file may not be run. -/
def permissionDenied : SystemFault := numbered 13

/-- Something is at the path already. -/
def alreadyExists : SystemFault := numbered 17

/-- The path goes through something that is no directory. -/
def notADirectory : SystemFault := numbered 20

/-- A directory is at the path. -/
def isADirectory : SystemFault := numbered 21

/-- The reader of a pipe is gone. -/
def brokenPipe : SystemFault := numbered 32

/-- The path, or a name in it, is too long. -/
def nameTooLong : SystemFault := numbered 36

/-- A path holds a zero character. -/
def zeroInPath : SystemFault := described "file name contained an unexpected NUL byte"

/-- An argument of a program holds a zero character. -/
def zeroInArgument : SystemFault := described "nul byte found in provided data"

end SystemFault

/-- How a process ended. -/
inductive ExitStatus
  /-- By itself, with a code. -/
  | exited (code : UInt8)
  /-- By a signal. -/
  | killed (signal : Nat)
  deriving Repr, DecidableEq

namespace ExitStatus

/-- The names of the signals, from number 1 on. -/
def signalNames : List String :=
  ["SIGHUP", "SIGINT", "SIGQUIT", "SIGILL", "SIGTRAP", "SIGABRT", "SIGBUS", "SIGFPE", "SIGKILL",
    "SIGUSR1", "SIGSEGV", "SIGUSR2", "SIGPIPE", "SIGALRM", "SIGTERM", "SIGSTKFLT", "SIGCHLD",
    "SIGCONT", "SIGSTOP", "SIGTSTP", "SIGTTIN", "SIGTTOU", "SIGURG", "SIGXCPU", "SIGXFSZ",
    "SIGVTALRM", "SIGPROF", "SIGWINCH", "SIGIO", "SIGPWR", "SIGSYS"]

/-- Whether the process ended by itself and with code zero. -/
def success : ExitStatus → Bool
  | exited code => code == 0
  | killed _ => false

/-- The words for a status. -/
def words : ExitStatus → String
  | exited code => "exit status: " ++ toString code.toNat
  | killed signal =>
    "signal: " ++ toString signal ++
      match if 0 < signal then signalNames[signal - 1]? else none with
      | some name => " (" ++ name ++ ")"
      | none => ""

end ExitStatus

end Plotter
