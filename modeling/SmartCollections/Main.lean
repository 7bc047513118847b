import SmartCollections.CommandLine

/-!
The program in its surroundings: the disk, the environment and the streams.
-/
namespace SmartCollections.Main

def faultOf : IO.Error → DiskFault
  | .noFileOrDirectory _ _ _ => .notFound
  | .inappropriateType _ 20 _ => .notDirectory
  | .inappropriateType _ 21 _ => .isDirectory
  | error => .other (toString error)

/-- The result of an action, or the fault that stopped it. -/
def attempt {α : Type} (action : IO α) : IO (Except DiskFault α) := do
  try return .ok (← action)
  catch error => return .error (faultOf error)

def disk : Disk IO where
  read path := attempt (IO.FS.readBinFile path)
  write path contents := attempt (IO.FS.writeBinFile path contents)
  rename source target := attempt (IO.FS.rename source target)

/-- A variable written as its name, an equals sign and its value. -/
def binding? (text : String) : Option (String × String) :=
  let chars := text.toList
  let name := chars.takeWhile (· ≠ '=')
  match chars.drop name.length with
  | _ :: value => some (String.ofList name, String.ofList value)
  | [] => none

/-- The environment of the process, as far as the system tells. -/
def environment : IO (List (String × String)) := do
  match ← attempt (IO.FS.readBinFile "/proc/self/environ") with
  | .ok bytes =>
    let text := (String.fromUTF8? bytes).getD ""
    return (text.splitOn "\x00").filterMap binding?
  | .error _ => return []

/-- Where the settings are kept, unless the command line says otherwise. -/
def usualPath (environment : List (String × String)) : Option String :=
  let folder := match environment.lookup "XDG_CONFIG_HOME" with
    | some folder =>
      if Path.isAbsolute folder then some folder
      else (environment.lookup "HOME").map (Path.join · ".config")
    | none => (environment.lookup "HOME").map (Path.join · ".config")
  folder.map (Path.join · "curate/config.toml")

end SmartCollections.Main

open SmartCollections in
def main (words : List String) : IO UInt32 := do
  let environment ← Main.environment
  let exit ← CommandLine.run Main.disk (Main.usualPath environment) environment words
  (← IO.getStdout).putStr exit.output
  for line in exit.complaints do
    (← IO.getStderr).putStrLn line
  return exit.code.toUInt32
