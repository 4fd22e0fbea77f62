import Retrace.Text.Utf8
import Retrace.Json.Shape

namespace Retrace.Guest

structure CommandLine where
  exe : String
  args : List String
  deriving DecidableEq

namespace CommandLine

/-- The six characters that separate arguments. -/
def isSpace (c : Char) : Bool :=
  c == ' ' || c == '\t' || c == '\n' || c == '\x0b' || c == '\x0c' || c == '\r'

def isInk (c : Char) : Bool := !isSpace c

/-- The runs of characters between spaces. -/
def words : List Char → List (List Char)
  | [] => []
  | c :: rest =>
    if isSpace c then words rest
    else (c :: rest.takeWhile isInk) :: words (rest.dropWhile isInk)
termination_by cs => cs.length
decreasing_by
  · simp
  · exact Nat.lt_succ_of_le (List.dropWhile_sublist _).length_le

/-- The program runs up to the first space; the arguments are the words after it. -/
def ofChars (cs : List Char) : CommandLine where
  exe := String.ofList (cs.takeWhile isInk)
  args := (words (cs.dropWhile isInk)).map String.ofList

def parse (bytes : Bytes) : CommandLine := ofChars (Utf8.decode bytes)

/-- The text that is logged: the program, then a blank and an argument each. -/
def joined (c : CommandLine) : String :=
  c.args.foldl (fun text arg => text ++ " " ++ arg) c.exe

def toJson (c : CommandLine) : Json :=
  .record [("exe", .text c.exe), ("args", .array (c.args.map .text))]

def ofJson? (value : Json) : Option CommandLine := do
  match ← value.allFields? ["exe", "args"] with
  | [exe, args] => return ⟨← exe.text?, ← (← args.items?).mapM Json.text?⟩
  | _ => none

end CommandLine

end Retrace.Guest
