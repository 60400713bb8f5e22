import MountProbe.Errno
import MountProbe.Path

/-! What can go wrong, by cause, with the code and the wording under which it is reported. Codes
are stable: scripts test them. -/
namespace MountProbe

inductive IoFault where
  | os (errno : Errno)
  | notText
  | zeroInName
  | other (message : String)
deriving DecidableEq, Inhabited, Repr

def IoFault.message : IoFault → String
  | .os errno => errno.message
  | .notText => "stream did not contain valid UTF-8"
  | .zeroInName => "file name contained an unexpected NUL byte"
  | .other message => message

/-- The place does not exist, or a directory on the way does not. -/
def IoFault.isMissing : IoFault → Bool
  | .os errno => errno = Errno.noEntry
  | _ => false

inductive Failure where
  | invalidConfig (details : String)
  | missingConfig (path : Path)
  | configParse (context details : String)
  | unsupportedPlatform (details : String)
  | fsStats (path : Path) (details : String)
  | mountParse (details : String)
  | serialization (context details : String)
  | metrics (details : String)
  | io (path : Path) (source : IoFault)
  | channelClosed (component : String)
  | runtime (details : String)
deriving DecidableEq, Inhabited, Repr

namespace Failure

def code : Failure → String
  | invalidConfig _ => "MG-1001"
  | missingConfig _ => "MG-1002"
  | configParse _ _ => "MG-1003"
  | unsupportedPlatform _ => "MG-1101"
  | fsStats _ _ => "MG-2001"
  | mountParse _ => "MG-2002"
  | serialization _ _ => "MG-2101"
  | metrics _ => "MG-2201"
  | io _ _ => "MG-3002"
  | channelClosed _ => "MG-3003"
  | runtime _ => "MG-3900"

def details : Failure → String
  | invalidConfig details => "invalid configuration: " ++ details
  | missingConfig path => "missing configuration file: " ++ path.display
  | configParse context details => "configuration parse failure in " ++ context ++ ": " ++ details
  | unsupportedPlatform details => "unsupported platform: " ++ details
  | fsStats path details => "filesystem stats failure for " ++ path.display ++ ": " ++ details
  | mountParse details => "mount table parse failure: " ++ details
  | serialization context details => "serialization failure in " ++ context ++ ": " ++ details
  | metrics details => "metrics failure: " ++ details
  | io path source => "IO failure at " ++ path.display ++ ": " ++ source.message
  | channelClosed component => "channel closed in component " ++ component
  | runtime details => "runtime failure: " ++ details

def message (f : Failure) : String :=
  "[" ++ f.code ++ "] " ++ f.details

def isRetryable : Failure → Bool
  | io _ _ | channelClosed _ | fsStats _ _ | runtime _ => true
  | _ => false

/-- The wording for the record of one mount: a failed stat call or file operation without the
place, which the record names, and anything else in full. -/
def cause : Failure → String
  | fsStats _ details => details
  | io _ source => source.message
  | other => other.message

end Failure

end MountProbe
