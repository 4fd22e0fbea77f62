import Retrace.Text.Utf8
import Retrace.Json.Shape

namespace Retrace.Log

/-- The length of the tag a release carries. -/
def releaseTagLength : Nat := 16

/-- Names the code path on which a thread stopped running. -/
structure ReleaseTag where
  bytes : Bytes
  length_bytes : bytes.length = releaseTagLength
  deriving DecidableEq

namespace ReleaseTag

/-- The first sixteen bytes of a run, with zeros after its end. -/
def ofBytes (bytes : Bytes) : ReleaseTag where
  bytes := (bytes ++ Bytes.zeros releaseTagLength).take releaseTagLength
  length_bytes := by simp [Bytes.zeros]

@[simp] theorem ofBytes_bytes (tag : ReleaseTag) : ofBytes tag.bytes = tag := by
  obtain ⟨bytes, h⟩ := tag
  simp [ofBytes, ← h]

def ofText (who : String) : ReleaseTag := ofBytes (Utf8.encodeText who)

/-- The tag of a thread that stops for good. -/
def exitThread : ReleaseTag := ofText "exit_thread"

instance : Inhabited ReleaseTag := ⟨ofBytes []⟩

/-- The text up to the first zero. -/
def text (tag : ReleaseTag) : String := Utf8.decodeText (tag.bytes.takeWhile (· != 0))

def toJson (tag : ReleaseTag) : Json := .text tag.text

def ofJson? (value : Json) : Option ReleaseTag := value.text?.map ofText

end ReleaseTag

end Retrace.Log
