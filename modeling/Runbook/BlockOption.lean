import Runbook.Text.Blank

/-! The options of a block and how a fence line sets them. A line is a run of tokens
`key`, `key=value` and `key = value`; anything else between them is skipped. -/
namespace Runbook

inductive BlockOption
  | run | rerun | explain | flamegraph | result
  deriving DecidableEq, Repr

namespace BlockOption

def all : List BlockOption := [.run, .rerun, .explain, .flamegraph, .result]

def key : BlockOption → Text
  | .run => "run"
  | .rerun => "rerun"
  | .explain => "explain"
  | .flamegraph => "flamegraph"
  | .result => "result"

def ofKey? (key : Text) : Option BlockOption := all.find? fun option => Text.agrees option.key key

/-- The value where neither the fence line nor the document sets the option. -/
def builtin : BlockOption → Bool
  | .run | .result => true
  | .rerun | .explain | .flamegraph => false

@[simp] theorem ofKey?_key (option : BlockOption) : ofKey? option.key = some option := by
  cases option <;> decide

end BlockOption

structure OptionToken where
  key : Text
  value : Option Text
  deriving DecidableEq, Repr

namespace OptionToken

def startsKey (c : Char) : Bool := c.isAlpha || c == '_'

def continuesKey (c : Char) : Bool := c.isAlphanum || c == '_' || c == '-'

def inValue (c : Char) : Bool := c != ',' && !Text.isBlank c

/-- What follows an equals sign, white space around the sign left out. -/
def assigned? (text : Text) : Option Text :=
  match Text.trimStart text with
  | '=' :: rest => some (Text.trimStart rest)
  | _ => none

theorem length_trimStart_le (text : Text) : (Text.trimStart text).length ≤ text.length :=
  (List.dropWhile_sublist _).length_le

theorem length_assigned? {text rest : Text} (h : assigned? text = some rest) :
    rest.length < text.length := by
  have bound := length_trimStart_le text
  unfold assigned? at h
  split at h
  · rename_i more shape
    have after := length_trimStart_le more
    cases h
    rw [shape] at bound
    simp only [List.length_cons] at bound
    omega
  · cases h

/-- The tokens of a text, found from the left, each as long as it can be. -/
def scan : Text → List OptionToken
  | [] => []
  | c :: rest =>
    if startsKey c then
      match _found : assigned? (rest.dropWhile continuesKey) with
      | some more =>
        ⟨c :: rest.takeWhile continuesKey, some (more.takeWhile inValue)⟩ ::
          scan (more.dropWhile inValue)
      | none => ⟨c :: rest.takeWhile continuesKey, none⟩ :: scan (rest.dropWhile continuesKey)
    else scan rest
termination_by text => text.length
decreasing_by
  all_goals simp only [List.length_cons]
  · have := length_assigned? _found
    have : (List.dropWhile inValue more).length ≤ more.length :=
      (List.dropWhile_sublist _).length_le
    have : (List.dropWhile continuesKey rest).length ≤ rest.length :=
      (List.dropWhile_sublist _).length_le
    omega
  · have : (List.dropWhile continuesKey rest).length ≤ rest.length :=
      (List.dropWhile_sublist _).length_le
    omega
  · omega

end OptionToken

/-- How an option stands on a fence line: with a truth value, or bare. -/
inductive Setting
  | explicit (value : Bool)
  | present
  deriving DecidableEq, Repr

abbrev HeaderOptions := BlockOption → Option Setting

namespace HeaderOptions

def empty : HeaderOptions := fun _ => none

def flag? (value : Text) : Option Bool :=
  if Text.agrees "true" value then some true
  else if Text.agrees "false" value then some false
  else none

/-- A truth value beats a bare mention; among truth values the first one stays. -/
def improve (old : Option Setting) (value : Option Text) : Option Setting :=
  match value with
  | none => old.getD .present
  | some value =>
    match flag? value, old with
    | some flag, none | some flag, some .present => some (.explicit flag)
    | _, _ => old

def record (options : HeaderOptions) (token : OptionToken) : HeaderOptions :=
  match BlockOption.ofKey? token.key with
  | none => options
  | some option => fun other =>
    if other = option then improve (options option) token.value else options other

def parse (raw : Text) : HeaderOptions := (OptionToken.scan raw).foldl record empty

end HeaderOptions
end Runbook
