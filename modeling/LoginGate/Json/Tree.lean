import LoginGate.Json.Token

/-! # What can be read of a JSON text

A text is read as a tree even when it is not JSON: the tree then breaks off where the text stops
making sense. Whoever interprets the tree from left to right finds a wrong value that comes early
before a fault that comes late, as if reading the text itself.

The tree is built by a machine that takes one token after the other (`Reader.take`) and keeps the
containers that are still open.
-/

namespace LoginGate.Json

/-- How the members of an object end. -/
inductive Ending where
  /-- With a closing brace. -/
  | closed
  /-- The text breaks off. -/
  | broken
  /-- The text breaks off after a key that no colon follows. -/
  | stray (key : Option String)
  deriving DecidableEq, Repr

/-- As much of a value as can be read. -/
inductive Tree where
  | null
  | bool (value : Bool)
  | number (numeral : Numeral)
  | string (text : Option String)
  /-- The items, and whether the array is closed. -/
  | array (items : List Tree) (closed : Bool)
  | object (members : List (Option String × Tree)) (ending : Ending)
  /-- No value can be read. -/
  | broken
  deriving Repr

/-- A container that is still open, with what it holds so far in reverse. -/
inductive Frame where
  | array (items : List Tree)
  /-- The last key waits for its value. -/
  | object (members : List (Option String × Tree)) (key : Option String)

/-- What the reader expects next. -/
inductive Reader where
  /-- A value. -/
  | value (stack : List Frame)
  /-- The first item of an array, or its end. -/
  | firstItem (stack : List Frame)
  /-- The first key of an object, or its end. -/
  | firstKey (stack : List Frame)
  /-- One more key after a comma. -/
  | nextKey (stack : List Frame) (members : List (Option String × Tree))
  /-- The colon after a key. -/
  | colon (stack : List Frame) (members : List (Option String × Tree)) (key : Option String)
  /-- What may follow a value. -/
  | after (stack : List Frame) (tree : Tree)
  /-- Nothing: the text broke off. -/
  | failed (tree : Tree)
  /-- Nothing: something followed the text. -/
  | trailing (tree : Tree)

namespace Reader

/-- The tree when the text breaks off, from the innermost container outwards. -/
def collapse : List Frame → Tree → Tree
  | [], tree => tree
  | .array items :: stack, tree => collapse stack (.array (items.reverse ++ [tree]) false)
  | .object members key :: stack, tree =>
    collapse stack (.object (members.reverse ++ [(key, tree)]) .broken)

def beginValue (stack : List Frame) : Token → Reader
  | .null => after stack .null
  | .bool truth => after stack (.bool truth)
  | .number numeral => after stack (.number numeral)
  | .string text => after stack (.string text)
  | .beginArray => firstItem stack
  | .beginObject => firstKey stack
  | _ => failed (collapse stack .broken)

def beginKey (stack : List Frame) (members : List (Option String × Tree)) : Token → Reader
  | .string key => colon stack members key
  | _ => failed (collapse stack (.object members.reverse .broken))

/-- What a token does after a value. -/
def follow (stack : List Frame) (tree : Tree) (token : Token) : Reader :=
  match stack, token with
  | [], _ => trailing tree
  | .array items :: stack, .comma => value (.array (tree :: items) :: stack)
  | .array items :: stack, .endArray => after stack (.array (tree :: items).reverse true)
  | .object members key :: stack, .comma => nextKey stack ((key, tree) :: members)
  | .object members key :: stack, .endObject =>
    after stack (.object ((key, tree) :: members).reverse .closed)
  | stack, _ => failed (collapse stack tree)

def take (reader : Reader) (token : Token) : Reader :=
  match reader, token with
  | value stack, token => beginValue stack token
  | firstItem stack, .endArray => after stack (.array [] true)
  | firstItem stack, token => beginValue (.array [] :: stack) token
  | firstKey stack, .endObject => after stack (.object [] .closed)
  | firstKey stack, token => beginKey stack [] token
  | nextKey stack members, token => beginKey stack members token
  | colon stack members key, .colon => value (.object members key :: stack)
  | colon stack members key, _ =>
    failed (collapse stack (.object members.reverse (.stray key)))
  | after stack tree, token => follow stack tree token
  | failed tree, _ => failed tree
  | trailing tree, _ => trailing tree

/-- The tree at the end of the text, and whether something followed it. -/
def finish : Reader → Tree × Bool
  | value stack => (collapse stack .broken, false)
  | firstItem stack => (collapse stack (.array [] false), false)
  | firstKey stack => (collapse stack (.object [] .broken), false)
  | nextKey stack members => (collapse stack (.object members.reverse .broken), false)
  | colon stack members key =>
    (collapse stack (.object members.reverse (.stray key)), false)
  | after stack tree => (collapse stack tree, false)
  | failed tree => (tree, false)
  | trailing tree => (tree, true)

end Reader

/-- What can be read of a text, and whether something follows the first value. -/
def read (text : List Char) : Tree × Bool :=
  ((Token.ofText 0 text).foldl Reader.take (.value [])).finish

end LoginGate.Json
