import SmartCollections.HostError

/-!
What can be asked of a disk, in whatever way its calls are carried out. A file is written or moved
in place of a file that is there, if there is one. Every call can fail. Nothing is said about what a
call that fails has done: a file whose writing has failed may hold anything.
-/
namespace SmartCollections

structure Disk (m : Type → Type) where
  read : String → m (Except DiskFault ByteArray)
  write : String → ByteArray → m (Except DiskFault Unit)
  rename : String → String → m (Except DiskFault Unit)

end SmartCollections
