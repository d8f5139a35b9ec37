import PandocHtml.Json.Basic
import PandocHtml.Number.Shortest
import PandocHtml.Text.Quoted

/-!
# Writing JSON text

The compact form of a value: no blanks, fields in their order, and in texts only the quote, the
backslash and the control characters escaped.
-/

namespace PandocHtml.Json

def writeChar (c : Char) : List Char :=
  if c == '"' || c == '\\' then ['\\', c]
  else if c.toNat < 0x20 then '\\' :: 'u' :: Text.hexDigits 4 c.toNat
  else [c]

def writeText (s : String) : String :=
  String.ofList ('"' :: (s.toList.flatMap writeChar ++ ['"']))

/-- The names of the numbers that have no digits. -/
def writeFloat (x : Binary64) : String :=
  if x.isNaN then "NaN"
  else if x.isInfinite then (if x.negative then "-Infinity" else "Infinity")
  else x.text

mutual

/-- The compact JSON text of a value. -/
def write : Json → String
  | .null => "null"
  | .bool b => if b then "true" else "false"
  | .int n => toString n
  | .float x => writeFloat x
  | .str s => writeText s
  | .arr items => "[" ++ writeItems items ++ "]"
  | .obj fields => "\x7b" ++ writeFields fields ++ "\x7d"

def writeItems : List Json → String
  | [] => ""
  | [v] => v.write
  | v :: rest => v.write ++ "," ++ writeItems rest

def writeFields : List (String × Json) → String
  | [] => ""
  | [(k, v)] => writeText k ++ ":" ++ v.write
  | (k, v) :: rest => writeText k ++ ":" ++ v.write ++ "," ++ writeFields rest

end

end PandocHtml.Json
