import Retrace.Log.Source

namespace Retrace.Log

/-- What stands at the path of a log. -/
inductive Place
  /-- Not even the directory it would be in. -/
  | unreachable
  | vacant
  | directory
  | file (bytes : Bytes) (permissions : Nat)
  deriving DecidableEq

namespace Place

/-- Only the owner reads and writes. -/
def ownerOnly : Nat := 0o600

/-- Makes an empty file, and tells who may use it. A file that is there keeps its permissions. -/
def create : Place → Except IoError Nat
  | unreachable => .error .notFound
  | vacant => .ok ownerOnly
  | directory => .error .isDirectory
  | file _ permissions => .ok permissions

/-- Opens what is there. A directory shows what it is when it is read. -/
def read : Place → Except IoError Source
  | unreachable => .error .notFound
  | vacant => .error .notFound
  | directory => .ok { rest := [], policy := { failure := some (0, .isDirectory) } }
  | file bytes _ => .ok (.ofBytes bytes)

end Place

end Retrace.Log
