import Runbook.Text

/-! Colours of frames. Families of operations have colours of their own; any other label
picks one from a palette by a hash, so the same label always has the same colour. -/
namespace Runbook.Flamegraph

def palette : List Text :=
  ["#e74c3c", "#3498db", "#2ecc71", "#f39c12", "#9b59b6",
    "#1abc9c", "#e67e22", "#95a5a6", "#34495e", "#e91e63"]

/-- A 64-bit hash of the bytes of a text: each is mixed in and the whole is multiplied. -/
def hash (text : Text) : UInt64 :=
  (text.flatMap String.utf8EncodeChar).foldl
    (fun hash byte => (hash ^^^ byte.toUInt64) * 0x00000100000001b3) 0xcbf29ce484222325

/-- What precedes the first place where `mark` stands, or the whole text. -/
def upTo (mark : Text) : Text → Text
  | [] => []
  | c :: rest => if mark.isPrefixOf (c :: rest) then [] else c :: upTo mark rest

def colour (label : Text) : Text :=
  let names (part : String) : Bool := Text.occursIn part label
  let operation := upTo " (" label
  if names "Seq Scan" then "#e74c3c"
  else if Text.occursIn "Index" operation && Text.occursIn "Scan" operation then "#2ecc71"
  else if names "Hash Join" || names "Nested Loop" || names "Merge Join" then "#3498db"
  else if names "Sort" || names "Aggregate" then "#f39c12"
  else if names "Result" then "#95a5a6"
  else (palette[(hash label).toNat % palette.length]?).getD []

end Runbook.Flamegraph
