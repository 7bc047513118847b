/-!
Why the media host refuses a call. The host keeps the catalog and the collections; every call to it
can fail by itself.
-/
namespace SmartCollections

inductive DiskFault where
  | notFound
  | notDirectory
  | isDirectory
  | nameTooLong
  /-- Anything else, in the words of the system. -/
  | other (message : String)
  deriving DecidableEq

def DiskFault.message : DiskFault → String
  | notFound => "No such file or directory (os error 2)"
  | notDirectory => "Not a directory (os error 20)"
  | isDirectory => "Is a directory (os error 21)"
  | nameTooLong => "File name too long (os error 36)"
  | other message => message

inductive HostError where
  | notFound (collection : String)
  | io (path : String) (fault : DiskFault)
  /-- The file holds something else than it should. -/
  | invalidData (path : String)
  | rejected (reason : String)
  | unavailable (reason : String)
  deriving DecidableEq

namespace HostError

def message : HostError → String
  | notFound collection => "collection not found: " ++ collection
  | io path fault => "I/O error on " ++ path ++ ": " ++ fault.message
  | invalidData path => "invalid host data in " ++ path
  | rejected reason => "rejected by host: " ++ reason
  | unavailable reason => "host unavailable: " ++ reason

/-- The same call might succeed later. -/
def isRetryable : HostError → Bool
  | io _ _ | unavailable _ => true
  | _ => false

def alreadyExists (collection : String) : HostError :=
  rejected ("collection '" ++ collection ++ "' already exists")

end HostError

end SmartCollections
