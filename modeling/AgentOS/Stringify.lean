import AgentOS.Domain
import Mathlib.Data.List.Sort
import Mathlib.Data.List.Lex

/-! The text of a JSON value, as the language writes it. -/
namespace AgentOS

def padded (width : Nat) (value : Int) : String :=
  let digits := toString value.natAbs
  String.ofList (List.replicate (width - digits.length) '0') ++ digits

def isoText (at_ : Instant) : String :=
  let days := at_.fdiv 86400000
  let time := at_ - days * 86400000
  -- Years are counted from March, so that the leap day comes last.
  let shifted := days + 719468
  let era := shifted.fdiv 146097
  let dayOfEra := shifted - era * 146097
  let yearOfEra := (dayOfEra - dayOfEra / 1460 + dayOfEra / 36524 - dayOfEra / 146096) / 365
  let dayOfYear := dayOfEra - (365 * yearOfEra + yearOfEra / 4 - yearOfEra / 100)
  let month := (5 * dayOfYear + 2) / 153
  let day := dayOfYear - (153 * month + 2) / 5 + 1
  let civilMonth := if month < 10 then month + 3 else month - 9
  let year := yearOfEra + era * 400 + (if civilMonth ≤ 2 then 1 else 0)
  padded 4 year ++ "-" ++ padded 2 civilMonth ++ "-" ++ padded 2 day ++ "T" ++ padded 2 (time / 3600000) ++ ":" ++
    padded 2 (time / 60000 % 60) ++ ":" ++ padded 2 (time / 1000 % 60) ++ "." ++ padded 3 (time % 1000) ++ "Z"

def escaped (char : Char) : String :=
  if char = '"' then "\\\""
  else if char = '\\' then "\\\\"
  else if char = '\n' then "\\n"
  else if char = '\r' then "\\r"
  else if char = '\t' then "\\t"
  else if char.val = 8 then "\\b"
  else if char.val = 12 then "\\f"
  else if char.val < 32 then
    "\\u00" ++ (if char.val < 16 then "0" else "1") ++ String.singleton (Nat.digitChar (char.val.toNat % 16))
  else String.singleton char

def quoted (text : String) : String := "\"" ++ String.join (text.toList.map escaped) ++ "\""

namespace Json

mutual
def stringify : Json → String
  | .null => "null"
  | .bool value => if value then "true" else "false"
  | .num value => toString value
  | .str value => quoted value
  | .timestamp at_ => quoted (isoText at_)
  | .arr items => "[" ++ String.intercalate "," (stringifyItems items) ++ "]"
  | .obj fields => "\x7b" ++ String.intercalate "," (stringifyFields fields) ++ "\x7d"
def stringifyItems : List Json → List String
  | [] => []
  | item::items => stringify item::stringifyItems items
def stringifyFields : List (String × Json) → List String
  | [] => []
  | (name,value)::fields => (quoted name ++ ":" ++ stringify value)::stringifyFields fields
end

/-! ### Canonical text -/

def codeUnits (text : String) : List Nat := text.toList.flatMap fun char =>
  if char.val < 65536 then [char.val.toNat]
  else [0xD800 + (char.val.toNat - 0x10000) / 0x400,0xDC00 + (char.val.toNat - 0x10000) % 0x400]

def compareCanonicalKeys (left right : String) : Bool := codeUnits left ≤ codeUnits right

mutual
def canonicalize : Json → Json
  | .arr items => .arr (canonicalizeItems items)
  | .obj fields => .obj ((canonicalizeFields fields).insertionSort fun left right => compareCanonicalKeys left.1 right.1)
  | value => value
def canonicalizeItems : List Json → List Json
  | [] => []
  | item::items => canonicalize item::canonicalizeItems items
def canonicalizeFields : List (String × Json) → List (String × Json)
  | [] => []
  | (name,value)::fields => (name,canonicalize value)::canonicalizeFields fields
end

end Json

def canonicalJsonValue (value : Json) : String := value.canonicalize.stringify

theorem isUpper_eq (char : Char) : char.isUpper = decide (char.val ≥ 'A'.val ∧ char.val ≤ 'Z'.val) := rfl

theorem isLower_eq (char : Char) : char.isLower = (char.val ≥ 'a'.val && char.val ≤ 'z'.val) := rfl

theorem isAlpha_eq (char : Char) : char.isAlpha = (char.isUpper || char.isLower) := rfl

/-- The length that the language gives a text: its code units in UTF-16. -/
def utf16Length (text : String) : Nat := (text.toList.map fun char => if char.val < 65536 then 1 else 2).sum

/-- The size of a text in UTF-8. -/
def byteLength (text : String) : Nat := text.utf8ByteSize

example : (Json.obj [("at",.timestamp 951782400000),("text",.str "a\"b")]).stringify =
    "\x7b\"at\":\"2000-02-29T00:00:00.000Z\",\"text\":\"a\\\"b\"\x7d" := by decide +kernel

end AgentOS
