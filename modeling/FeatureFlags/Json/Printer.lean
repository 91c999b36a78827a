import FeatureFlags.Json.Basic
import FeatureFlags.Text.Digits

namespace FeatureFlags.Json

def escape (c : Char) : List Char :=
  if c = '"' then ['\\', '"']
  else if c = '\\' then ['\\', '\\']
  else if c.toNat < 0x20 then
    match c.toNat with
    | 8 => ['\\', 'b']
    | 9 => ['\\', 't']
    | 10 => ['\\', 'n']
    | 12 => ['\\', 'f']
    | 13 => ['\\', 'r']
    | n => ['\\', 'u', '0', '0', Text.hexDigit (n / 16), Text.hexDigit (n % 16)]
  else [c]

def quote (s : String) : String :=
  "\"" ++ String.ofList (s.toList.flatMap escape) ++ "\""

mutual

def write : Json → String
  | null => "null"
  | bool true => "true"
  | bool false => "false"
  | number n => n.write
  | string s => quote s
  | array xs => "[" ++ ",".intercalate (writeItems xs) ++ "]"
  | object fs => "\x7b" ++ ",".intercalate (writeMembers fs) ++ "\x7d"

def writeItems : List Json → List String
  | [] => []
  | x :: xs => x.write :: writeItems xs

def writeMembers : List (String × Json) → List String
  | [] => []
  | (k, x) :: fs => (quote k ++ ":" ++ x.write) :: writeMembers fs

end

end FeatureFlags.Json
