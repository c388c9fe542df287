import LoginGate.Text.Numeral

/-! # JSON values and how they are written

Values are written without blanks, the members of an object in the order in which they stand. A
string escapes the quote, the backslash and the control characters below the space, and shows every
other character as it is; so no written value contains a line break.
-/

namespace LoginGate

/-- A JSON value as this library writes it. -/
inductive Json where
  | null
  | bool (value : Bool)
  | nat (value : Nat)
  | string (text : String)
  | array (items : List Json)
  | object (members : List (String × Json))
  deriving Repr

namespace Json

def escaped (c : Char) : List Char :=
  if c = '"' then ['\\', '"']
  else if c = '\\' then ['\\', '\\']
  else if c = '\x08' then ['\\', 'b']
  else if c = '\x0c' then ['\\', 'f']
  else if c = '\n' then ['\\', 'n']
  else if c = '\r' then ['\\', 'r']
  else if c = '\t' then ['\\', 't']
  else if c.toNat < 0x20 then '\\' :: 'u' :: Text.padded 4 (Nat.toDigits 16 c.toNat)
  else [c]

def written (text : String) : List Char :=
  '"' :: text.toList.flatMap escaped ++ ['"']

mutual

def render : Json → List Char
  | null => "null".toList
  | bool true => "true".toList
  | bool false => "false".toList
  | nat value => Text.decimal value
  | string text => written text
  | array [] => ['[', ']']
  | array (first :: rest) => '[' :: render first ++ renderItems rest
  | object [] => ['\x7b', '\x7d']
  | object ((key, value) :: rest) =>
    '\x7b' :: written key ++ ':' :: render value ++ renderMembers rest

/-- The items after the first one, and the end of the array. -/
def renderItems : List Json → List Char
  | [] => [']']
  | item :: rest => ',' :: render item ++ renderItems rest

/-- The members after the first one, and the end of the object. -/
def renderMembers : List (String × Json) → List Char
  | [] => ['\x7d']
  | (key, value) :: rest => ',' :: written key ++ ':' :: render value ++ renderMembers rest

end

/-- An object of those members that have a value. -/
def present (members : List (String × Option Json)) : Json :=
  .object (members.filterMap fun (key, value) => value.map (key, ·))

def toText (value : Json) : String :=
  String.ofList value.render

end Json
end LoginGate
