/-!
# Error numbers and their texts

One row per error number of the host: its symbol, the phrase that stands beside the symbol, the
host's own message and, where there is one, the name of the category it belongs to. The numbers
rise strictly from row to row, so that a number has at most one row.
-/

namespace SharedSegment.Errno

/-- What is known of one error number. -/
structure Row where
  number : Nat
  symbol : String
  phrase : String
  message : String
  category : Option String

/-- All error numbers of the host, in rising order. -/
def table : List Row := [
  ⟨1, "EPERM", "Operation not permitted", "Operation not permitted", some "PermissionDenied"⟩,
  ⟨2, "ENOENT", "No such file or directory", "No such file or directory", some "NotFound"⟩,
  ⟨3, "ESRCH", "No such process", "No such process", none⟩,
  ⟨4, "EINTR", "Interrupted system call", "Interrupted system call", some "Interrupted"⟩,
  ⟨5, "EIO", "I/O error", "Input/output error", none⟩,
  ⟨6, "ENXIO", "No such device or address", "No such device or address", none⟩,
  ⟨7, "E2BIG", "Argument list too long", "Argument list too long", some "ArgumentListTooLong"⟩,
  ⟨8, "ENOEXEC", "Exec format error", "Exec format error", none⟩,
  ⟨9, "EBADF", "Bad file number", "Bad file descriptor", none⟩,
  ⟨10, "ECHILD", "No child processes", "No child processes", none⟩,
  ⟨11, "EAGAIN", "Try again", "Resource temporarily unavailable", some "WouldBlock"⟩,
  ⟨12, "ENOMEM", "Out of memory", "Cannot allocate memory", some "OutOfMemory"⟩,
  ⟨13, "EACCES", "Permission denied", "Permission denied", some "PermissionDenied"⟩,
  ⟨14, "EFAULT", "Bad address", "Bad address", none⟩,
  ⟨15, "ENOTBLK", "Block device required", "Block device required", none⟩,
  ⟨16, "EBUSY", "Device or resource busy", "Device or resource busy", some "ResourceBusy"⟩,
  ⟨17, "EEXIST", "File exists", "File exists", some "AlreadyExists"⟩,
  ⟨18, "EXDEV", "Cross-device link", "Invalid cross-device link", some "CrossesDevices"⟩,
  ⟨19, "ENODEV", "No such device", "No such device", none⟩,
  ⟨20, "ENOTDIR", "Not a directory", "Not a directory", some "NotADirectory"⟩,
  ⟨21, "EISDIR", "Is a directory", "Is a directory", some "IsADirectory"⟩,
  ⟨22, "EINVAL", "Invalid argument", "Invalid argument", some "InvalidInput"⟩,
  ⟨23, "ENFILE", "File table overflow", "Too many open files in system", none⟩,
  ⟨24, "EMFILE", "Too many open files", "Too many open files", none⟩,
  ⟨25, "ENOTTY", "Not a typewriter", "Inappropriate ioctl for device", none⟩,
  ⟨26, "ETXTBSY", "Text file busy", "Text file busy", some "ExecutableFileBusy"⟩,
  ⟨27, "EFBIG", "File too large", "File too large", some "FileTooLarge"⟩,
  ⟨28, "ENOSPC", "No space left on device", "No space left on device", some "StorageFull"⟩,
  ⟨29, "ESPIPE", "Illegal seek", "Illegal seek", some "NotSeekable"⟩,
  ⟨30, "EROFS", "Read-only file system", "Read-only file system", some "ReadOnlyFilesystem"⟩,
  ⟨31, "EMLINK", "Too many links", "Too many links", some "TooManyLinks"⟩,
  ⟨32, "EPIPE", "Broken pipe", "Broken pipe", some "BrokenPipe"⟩,
  ⟨33, "EDOM", "Math argument out of domain of func", "Numerical argument out of domain", none⟩,
  ⟨34, "ERANGE", "Math result not representable", "Numerical result out of range", none⟩,
  ⟨35, "EDEADLK", "Resource deadlock would occur", "Resource deadlock avoided", some "Deadlock"⟩,
  ⟨36, "ENAMETOOLONG", "File name too long", "File name too long", some "InvalidFilename"⟩,
  ⟨37, "ENOLCK", "No record locks available", "No locks available", none⟩,
  ⟨38, "ENOSYS", "Function not implemented", "Function not implemented", some "Unsupported"⟩,
  ⟨39, "ENOTEMPTY", "Directory not empty", "Directory not empty", some "DirectoryNotEmpty"⟩,
  ⟨40, "ELOOP", "Too many symbolic links encountered",
    "Too many levels of symbolic links", some "FilesystemLoop"⟩,
  ⟨42, "ENOMSG", "No message of desired type", "No message of desired type", none⟩,
  ⟨43, "EIDRM", "Identifier removed", "Identifier removed", none⟩,
  ⟨44, "ECHRNG", "Channel number out of range", "Channel number out of range", none⟩,
  ⟨45, "EL2NSYNC", "Level 2 not synchronized", "Level 2 not synchronized", none⟩,
  ⟨46, "EL3HLT", "Level 3 halted", "Level 3 halted", none⟩,
  ⟨47, "EL3RST", "Level 3 reset", "Level 3 reset", none⟩,
  ⟨48, "ELNRNG", "Link number out of range", "Link number out of range", none⟩,
  ⟨49, "EUNATCH", "Protocol driver not attached", "Protocol driver not attached", none⟩,
  ⟨50, "ENOCSI", "No CSI structure available", "No CSI structure available", none⟩,
  ⟨51, "EL2HLT", "Level 2 halted", "Level 2 halted", none⟩,
  ⟨52, "EBADE", "Invalid exchange", "Invalid exchange", none⟩,
  ⟨53, "EBADR", "Invalid request descriptor", "Invalid request descriptor", none⟩,
  ⟨54, "EXFULL", "Exchange full", "Exchange full", none⟩,
  ⟨55, "ENOANO", "No anode", "No anode", none⟩,
  ⟨56, "EBADRQC", "Invalid request code", "Invalid request code", none⟩,
  ⟨57, "EBADSLT", "Invalid slot", "Invalid slot", none⟩,
  ⟨59, "EBFONT", "Bad font file format", "Bad font file format", none⟩,
  ⟨60, "ENOSTR", "Device not a stream", "Device not a stream", none⟩,
  ⟨61, "ENODATA", "No data available", "No data available", none⟩,
  ⟨62, "ETIME", "Timer expired", "Timer expired", none⟩,
  ⟨63, "ENOSR", "Out of streams resources", "Out of streams resources", none⟩,
  ⟨64, "ENONET", "Machine is not on the network", "Machine is not on the network", none⟩,
  ⟨65, "ENOPKG", "Package not installed", "Package not installed", none⟩,
  ⟨66, "EREMOTE", "Object is remote", "Object is remote", none⟩,
  ⟨67, "ENOLINK", "Link has been severed", "Link has been severed", none⟩,
  ⟨68, "EADV", "Advertise error", "Advertise error", none⟩,
  ⟨69, "ESRMNT", "Srmount error", "Srmount error", none⟩,
  ⟨70, "ECOMM", "Communication error on send", "Communication error on send", none⟩,
  ⟨71, "EPROTO", "Protocol error", "Protocol error", none⟩,
  ⟨72, "EMULTIHOP", "Multihop attempted", "Multihop attempted", none⟩,
  ⟨73, "EDOTDOT", "RFS specific error", "RFS specific error", none⟩,
  ⟨74, "EBADMSG", "Not a data message", "Bad message", none⟩,
  ⟨75, "EOVERFLOW", "Value too large for defined data type",
    "Value too large for defined data type", none⟩,
  ⟨76, "ENOTUNIQ", "Name not unique on network", "Name not unique on network", none⟩,
  ⟨77, "EBADFD", "File descriptor in bad state", "File descriptor in bad state", none⟩,
  ⟨78, "EREMCHG", "Remote address changed", "Remote address changed", none⟩,
  ⟨79, "ELIBACC", "Can not access a needed shared library",
    "Can not access a needed shared library", none⟩,
  ⟨80, "ELIBBAD", "Accessing a corrupted shared library",
    "Accessing a corrupted shared library", none⟩,
  ⟨81, "ELIBSCN", ".lib section in a.out corrupted", ".lib section in a.out corrupted", none⟩,
  ⟨82, "ELIBMAX", "Attempting to link in too many shared libraries",
    "Attempting to link in too many shared libraries", none⟩,
  ⟨83, "ELIBEXEC", "Cannot exec a shared library directly",
    "Cannot exec a shared library directly", none⟩,
  ⟨84, "EILSEQ", "Illegal byte sequence",
    "Invalid or incomplete multibyte or wide character", none⟩,
  ⟨85, "ERESTART", "Interrupted system call should be restarted",
    "Interrupted system call should be restarted", none⟩,
  ⟨86, "ESTRPIPE", "Streams pipe error", "Streams pipe error", none⟩,
  ⟨87, "EUSERS", "Too many users", "Too many users", none⟩,
  ⟨88, "ENOTSOCK", "Socket operation on non-socket", "Socket operation on non-socket", none⟩,
  ⟨89, "EDESTADDRREQ", "Destination address required", "Destination address required", none⟩,
  ⟨90, "EMSGSIZE", "Message too long", "Message too long", none⟩,
  ⟨91, "EPROTOTYPE", "Protocol wrong type for socket", "Protocol wrong type for socket", none⟩,
  ⟨92, "ENOPROTOOPT", "Protocol not available", "Protocol not available", none⟩,
  ⟨93, "EPROTONOSUPPORT", "Protocol not supported", "Protocol not supported", none⟩,
  ⟨94, "ESOCKTNOSUPPORT", "Socket type not supported", "Socket type not supported", none⟩,
  ⟨95, "EOPNOTSUPP", "Operation not supported on transport endpoint",
    "Operation not supported", some "Unsupported"⟩,
  ⟨96, "EPFNOSUPPORT", "Protocol family not supported", "Protocol family not supported", none⟩,
  ⟨97, "EAFNOSUPPORT", "Address family not supported by protocol",
    "Address family not supported by protocol", none⟩,
  ⟨98, "EADDRINUSE", "Address already in use", "Address already in use", some "AddrInUse"⟩,
  ⟨99, "EADDRNOTAVAIL", "Cannot assign requested address",
    "Cannot assign requested address", some "AddrNotAvailable"⟩,
  ⟨100, "ENETDOWN", "Network is down", "Network is down", some "NetworkDown"⟩,
  ⟨101, "ENETUNREACH", "Network is unreachable",
    "Network is unreachable", some "NetworkUnreachable"⟩,
  ⟨102, "ENETRESET", "Network dropped connection because of reset",
    "Network dropped connection on reset", none⟩,
  ⟨103, "ECONNABORTED", "Software caused connection abort",
    "Software caused connection abort", some "ConnectionAborted"⟩,
  ⟨104, "ECONNRESET", "Connection reset by peer",
    "Connection reset by peer", some "ConnectionReset"⟩,
  ⟨105, "ENOBUFS", "No buffer space available", "No buffer space available", none⟩,
  ⟨106, "EISCONN", "Transport endpoint is already connected",
    "Transport endpoint is already connected", none⟩,
  ⟨107, "ENOTCONN", "Transport endpoint is not connected",
    "Transport endpoint is not connected", some "NotConnected"⟩,
  ⟨108, "ESHUTDOWN", "Cannot send after transport endpoint shutdown",
    "Cannot send after transport endpoint shutdown", none⟩,
  ⟨109, "ETOOMANYREFS", "Too many references: cannot splice",
    "Too many references: cannot splice", none⟩,
  ⟨110, "ETIMEDOUT", "Connection timed out", "Connection timed out", some "TimedOut"⟩,
  ⟨111, "ECONNREFUSED", "Connection refused", "Connection refused", some "ConnectionRefused"⟩,
  ⟨112, "EHOSTDOWN", "Host is down", "Host is down", none⟩,
  ⟨113, "EHOSTUNREACH", "No route to host", "No route to host", some "HostUnreachable"⟩,
  ⟨114, "EALREADY", "Operation already in progress", "Operation already in progress", none⟩,
  ⟨115, "EINPROGRESS", "Operation now in progress",
    "Operation now in progress", some "InProgress"⟩,
  ⟨116, "ESTALE", "Stale file handle", "Stale file handle", some "StaleNetworkFileHandle"⟩,
  ⟨117, "EUCLEAN", "Structure needs cleaning", "Structure needs cleaning", none⟩,
  ⟨118, "ENOTNAM", "Not a XENIX named type file", "Not a XENIX named type file", none⟩,
  ⟨119, "ENAVAIL", "No XENIX semaphores available", "No XENIX semaphores available", none⟩,
  ⟨120, "EISNAM", "Is a named type file", "Is a named type file", none⟩,
  ⟨121, "EREMOTEIO", "Remote I/O error", "Remote I/O error", none⟩,
  ⟨122, "EDQUOT", "Quota exceeded", "Disk quota exceeded", some "QuotaExceeded"⟩,
  ⟨123, "ENOMEDIUM", "No medium found", "No medium found", none⟩,
  ⟨124, "EMEDIUMTYPE", "Wrong medium type", "Wrong medium type", none⟩,
  ⟨125, "ECANCELED", "Operation canceled", "Operation canceled", none⟩,
  ⟨126, "ENOKEY", "Required key not available", "Required key not available", none⟩,
  ⟨127, "EKEYEXPIRED", "Key has expired", "Key has expired", none⟩,
  ⟨128, "EKEYREVOKED", "Key has been revoked", "Key has been revoked", none⟩,
  ⟨129, "EKEYREJECTED", "Key was rejected by service", "Key was rejected by service", none⟩,
  ⟨130, "EOWNERDEAD", "Owner died", "Owner died", none⟩,
  ⟨131, "ENOTRECOVERABLE", "State not recoverable", "State not recoverable", none⟩,
  ⟨132, "ERFKILL", "Operation not possible due to RF-kill",
    "Operation not possible due to RF-kill", none⟩,
  ⟨133, "EHWPOISON", "Memory page has hardware error", "Memory page has hardware error", none⟩]

end SharedSegment.Errno
