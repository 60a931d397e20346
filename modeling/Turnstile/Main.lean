import Std.Time.DateTime.Timestamp
import Turnstile.Admin.Run
import Turnstile.Uuid
set_option autoImplicit false

/-! The program of operators: reads its arguments, variables and keys, and prints what
a task shows. -/

namespace Turnstile.Program

def readEnvironment : IO Environment := do
  let pairs ← Admin.variableNames.mapM fun name => do return (name, ← IO.getEnv name)
  return fun name => (pairs.lookup name).bind id

def readDirectory (path : String) : IO Directory := do
  try
    let found ← ((← IO.currentDir) / path).readDir
    let entries ← found.toList.mapM fun entry => do
      if ← entry.path.isDir then return ⟨entry.fileName, none⟩
      else return ⟨entry.fileName, some (← IO.FS.readBinFile entry.path).toList⟩
    return .entries entries
  catch error =>
    match error with
    | .noFileOrDirectory .. => return .missing
    | _ => return .notADirectory

def readClock : IO Instant := do
  let time ← Std.Time.Timestamp.now
  return (Instant.ofUnixNanos? time.toNanosecondsSinceUnixEpoch.val).getD .epoch

def runCommand (command : Admin.Command) : IO UInt32 := do
  let directory ← readDirectory command.keysDirectory
  let tokenId := Uuid.render (← IO.getRandomBytes 16).toList
  let report := command.run ⟨← readClock, tokenId, fun _ => directory⟩
  IO.print report.output
  IO.eprint report.diagnostics
  return UInt32.ofNat report.code

end Turnstile.Program

def main (arguments : List String) : IO UInt32 := do
  match Turnstile.Admin.Command.parse arguments (← Turnstile.Program.readEnvironment) with
  | .ok command => Turnstile.Program.runCommand command
  | .error stop =>
      IO.eprint Turnstile.Admin.usage
      return UInt32.ofNat stop.code
