namespace Retrace

/-- Names something that tells whether the kernel is done with a thread. -/
structure ExitProbe where
  id : Nat
  deriving DecidableEq

namespace ExitProbe

/-- A word of the thread tells its exit: the kernel zeroes it, and a join leaves -1 in it. -/
def isExitValue (value : Int32) : Bool := value == 0 || value == -1

/-- How often a probe was polled, and whether the last poll saw the exit. -/
structure Wait where
  polls : Nat
  observed : Bool
  deriving DecidableEq

/-- Polls number `k` and later, and again after each that does not see the exit, at most so many times. -/
def waitFrom (answers : Nat → Bool) (k : Nat) : Nat → Wait
  | 0 => ⟨k + 1, answers k⟩
  | retries + 1 => if answers k then ⟨k + 1, true⟩ else waitFrom answers (k + 1) retries

/-- Polls once, and again up to `retries` times until the exit is seen. -/
def wait (answers : Nat → Bool) (retries : Nat) : Wait := waitFrom answers 0 retries

end ExitProbe

end Retrace
