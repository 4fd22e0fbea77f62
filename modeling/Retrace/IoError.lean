namespace Retrace

/-- Why bytes could not be read, written or kept. -/
inductive IoError
  /-- A write took no byte. -/
  | writeZero
  | notFound
  | isDirectory
  /-- What a device says of its own failure. -/
  | device (text : String)
  deriving DecidableEq

def IoError.message : IoError → String
  | .writeZero => "failed to write whole buffer"
  | .notFound => "No such file or directory (os error 2)"
  | .isDirectory => "Is a directory (os error 21)"
  | .device text => text

end Retrace
