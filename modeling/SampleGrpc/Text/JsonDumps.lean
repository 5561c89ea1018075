import SampleGrpc.Auth.Jwt

/-!
# Python's compact JSON

`json.dumps` of a dictionary of strings, booleans and integers with `separators=(",", ":")`: keys in
insertion order, no white space, strings in ASCII.
-/

namespace SampleGrpc.JsonDumps

/-- The escape of a UTF-16 code unit. -/
def escapeUnit (u : ℕ) : String :=
  "\\u" ++ String.ofList ((List.range 4).map fun i => Nat.digitChar (u / 16 ^ (3 - i) % 16))

/-- A character in a JSON string. Outside printable ASCII it is written as UTF-16 code units. -/
def escapeChar (c : Char) : String :=
  if c = '"' then "\\\""
  else if c = '\\' then "\\\\"
  else if c = '\n' then "\\n"
  else if c = '\r' then "\\r"
  else if c = '\t' then "\\t"
  else if c.toNat = 8 then "\\b"
  else if c.toNat = 12 then "\\f"
  else if 0x20 ≤ c.toNat ∧ c.toNat ≤ 0x7e then c.toString
  else if c.toNat < 0x10000 then escapeUnit c.toNat
  else escapeUnit (0xd800 + (c.toNat - 0x10000) / 0x400) ++
    escapeUnit (0xdc00 + (c.toNat - 0x10000) % 0x400)

def quote (s : String) : String := "\"" ++ String.join (s.toList.map escapeChar) ++ "\""

def scalar : Scalar → String
  | .str s => quote s
  | .bool b => toString b
  | .int n => toString n

def dumps (fields : List (String × Scalar)) : String :=
  "\x7b" ++ ",".intercalate (fields.map fun kv => quote kv.1 ++ ":" ++ scalar kv.2) ++ "\x7d"

end SampleGrpc.JsonDumps
