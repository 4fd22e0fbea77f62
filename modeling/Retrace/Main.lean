import Retrace.Inspect.Request

namespace Retrace

/-- What stands at a path of the file system. Of what can be opened, only directories cannot be read. -/
def Log.Place.ofPath (path : String) : IO Log.Place := do
  let handle ← try IO.FS.Handle.mk path .read catch _ => return .vacant
  try return .file (← handle.readBinToEnd).toList ownerOnly catch _ => return .directory

/-- What is printed for some arguments. -/
def Inspect.answerArgs (args : List String) : IO Inspect.Printed :=
  match Inspect.Request.ofArgs? args with
  | some request => do return request.run (← Log.Place.ofPath request.logPath)
  | none => return Inspect.Printed.badUsage

end Retrace

def main (args : List String) : IO UInt32 := do
  let printed ← Retrace.Inspect.answerArgs args
  let out ← IO.getStdout
  out.write ⟨printed.out.toArray⟩
  out.flush
  printed.failure.forM IO.eprintln
  return printed.exit
