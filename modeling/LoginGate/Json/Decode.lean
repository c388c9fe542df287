import LoginGate.Json.Tree
import LoginGate.Text.Numeral
import LoginGate.Text.Quoted

/-! # Interpreting JSON

Values of known types are taken from the tree of a text, from left to right. A text that is not JSON
is `malformed`; a JSON text of another shape is a `mismatch`. Whichever comes first in the text
decides.

A record is read from an object, by the names of its fields and ignoring other names, or from an
array, by the order of its fields. A choice among names is read from a string, or from an object
with the name as its only key and no value.
-/

namespace LoginGate.Json

/-- How a value differs from what is expected. -/
inductive Mismatch where
  | wrongType (found expected : String)
  | wrongValue (found expected : String)
  | wrongLength (found : Nat) (expected : String)
  | unknownVariant (found : String) (known : List String)
  | missingField (name : String)
  | duplicateField (name : String)
  /-- A text that cannot be read, with the reason. -/
  | unreadable (reason : String)
  deriving DecidableEq, Repr

/-- Why a text cannot be interpreted. -/
inductive Fault where
  | malformed
  | mismatch (difference : Mismatch)
  deriving DecidableEq, Repr

/-! ## Faults in words

What is wrong with a text is told without the place at which it shows: the ending that names a line
and a column is left out. So is the nature of a fault of syntax; all that is told is that there is
one. The reason why a text cannot be read may itself end as if it named a place, because it repeats
a text that does; that ending is left out as well, once.
-/

/-- The text before its last words, if they are these. -/
def beforeWords? (words : String) (text : List Char) : Option (List Char) :=
  if words.toList.isSuffixOf text then some (text.take (text.length - words.length)) else none

/-- The text before the digits that end it, if they are a number of 64 bits. -/
def beforeNumber? (text : List Char) : Option (List Char) :=
  let digits := (text.reverse.takeWhile Text.isDecimal).reverse
  (Text.numeral? 10 digits).bind fun number =>
    if number < UInt64.size then some (text.take (text.length - digits.length)) else none

/-- The text before a line and a column, if it ends with these. -/
def beforePlace? (text : List Char) : Option (List Char) := do
  let line ← beforeNumber? text >>= beforeWords? " column "
  beforeNumber? line >>= beforeWords? " at line "

/-- A reason without the place that it ends with. -/
def withoutPlace (reason : String) : String :=
  ((beforePlace? reason.toList).map String.ofList).getD reason

def alternatives (names : List String) : String :=
  match names.map fun name => s!"`{name}`" with
  | [] => ""
  | [only] => only
  | [first, second] => s!"{first} or {second}"
  | several => "one of " ++ ", ".intercalate several

def Mismatch.message : Mismatch → String
  | wrongType found expected => s!"invalid type: {found}, expected {expected}"
  | wrongValue found expected => s!"invalid value: {found}, expected {expected}"
  | wrongLength found expected => s!"invalid length {found}, expected {expected}"
  | unknownVariant found known => s!"unknown variant `{found}`, expected {alternatives known}"
  | missingField name => s!"missing field `{name}`"
  | duplicateField name => s!"duplicate field `{name}`"
  | unreadable reason => withoutPlace reason

/-- A fault in words. `<syntax>` stands for whatever a reader of JSON would say of a malformed text,
and where. -/
def Fault.message : Fault → String
  | malformed => "<syntax>"
  | mismatch difference => difference.message

/-! ## Whole values -/

/-- The members end as they should. -/
def Ending.isClosed : Ending → Bool
  | closed => true
  | broken | stray _ => false

namespace Tree

mutual

/-- The whole value can be read. -/
def isIntact : Tree → Bool
  | null | bool _ | number _ | string _ => true
  | array items closed => closed && intactItems items
  | object members .closed => intactMembers members
  | object _ _ | broken => false

def intactItems : List Tree → Bool
  | [] => true
  | item :: rest => isIntact item && intactItems rest

def intactMembers : List (Option String × Tree) → Bool
  | [] => true
  | (_, value) :: rest => isIntact value && intactMembers rest

end

mutual

/-- The whole value can be read, its strings have texts and its numbers values, and no more than
`depth` containers stand inside each other. -/
def isStrict (depth : Nat) : Tree → Bool
  | null | bool _ => true
  | number numeral => numeral.value?.isSome
  | string text => text.isSome
  | array items closed => 0 < depth && closed && strictItems (depth - 1) items
  | object members .closed => 0 < depth && strictMembers (depth - 1) members
  | object _ _ | broken => false

def strictItems (depth : Nat) : List Tree → Bool
  | [] => true
  | item :: rest => isStrict depth item && strictItems depth rest

def strictMembers (depth : Nat) : List (Option String × Tree) → Bool
  | [] => true
  | (key, value) :: rest => key.isSome && isStrict depth value && strictMembers depth rest

end

end Tree

/-- How deep containers may stand inside each other. -/
def maxDepth : Nat := 127

/-! ## Simple values -/

def Number.describe : Number → String
  | nat value => s!"integer `{value}`"
  | negative value => s!"integer `-{value}`"
  | float value =>
    let text := Number.toText value
    s!"floating point `{text}`"

/-- What stands in place of an expected value. -/
def wrongType {α : Type} (expected : String) (tree : Tree) : Except Fault α :=
  let found (description : String) : Except Fault α :=
    .error (.mismatch (.wrongType description expected))
  match tree with
  | .null => found "null"
  | .bool value => found s!"boolean `{value}`"
  | .number numeral =>
    match numeral.value? with
    | some number => found number.describe
    | none => .error .malformed
  | .string (some text) =>
    let quoted := Text.quoted text
    found s!"string {quoted}"
  | .string none | .broken => .error .malformed
  | .array _ _ => found "sequence"
  | .object _ _ => found "map"

def text (expected : String) : Tree → Except Fault String
  | .string (some text) => .ok text
  | tree => wrongType expected tree

def anyText : Tree → Except Fault String :=
  text "a string"

def truth : Tree → Except Fault Bool
  | .bool value => .ok value
  | tree => wrongType "a boolean" tree

def small : Tree → Except Fault Nat
  | .number numeral =>
    match numeral.value? with
    | some (.nat value) =>
      if value < UInt16.size then .ok value
      else .error (.mismatch (.wrongValue (Number.nat value).describe "u16"))
    | some (.negative value) =>
      .error (.mismatch (.wrongValue (Number.negative value).describe "u16"))
    | some (.float value) => .error (.mismatch (.wrongType (Number.float value).describe "u16"))
    | none => .error .malformed
  | tree => wrongType "u16" tree

def optional {α : Type} (decode : Tree → Except Fault α) : Tree → Except Fault (Option α)
  | .null => .ok none
  | tree => (decode tree).map some

def list {α : Type} (decode : Tree → Except Fault α) : Tree → Except Fault (List α)
  | .array items closed => do
    let values ← items.mapM decode
    if closed then .ok values else .error .malformed
  | tree => wrongType "a sequence" tree

/-! ## Choices among names -/

/-- The choice that a name stands for. -/
def variant {α : Type} (ofName? : String → Option α) (known : List String) (name : String) :
    Except Fault α :=
  match ofName? name with
  | some value => .ok value
  | none => .error (.mismatch (.unknownVariant name known))

/-- The name of a choice. -/
def variantName : Tree → Except Fault String :=
  text "variant identifier"

def choice {α : Type} (ofName? : String → Option α) (known : List String) :
    Tree → Except Fault α
  | .string (some name) => variant ofName? known name
  | .object ((some name, value) :: others) ending => do
    let chosen ← variant ofName? known name
    match value with
    | .null => if others.isEmpty && ending.isClosed then .ok chosen else .error .malformed
    | value => wrongType "unit" value
  | .object [] (.stray (some name)) => do
    let _ ← variant ofName? known name
    .error .malformed
  | _ => .error .malformed

/-! ## Records -/

/-- A field of a record that is read into a value of `σ`. -/
structure RecordField (σ : Type) where
  name : String
  /-- Puts the field's value into the record. -/
  read : Tree → σ → Except Fault σ
  /-- The field has to be there. -/
  required : Bool := true

variable {σ : Type}

/-- The name of a known field that was seen before. -/
def repeats (fields : List (RecordField σ)) (seen : List String) (key : String) : Bool :=
  fields.any (·.name == key) && seen.contains key

/-- Reads the members of an object into a record, with the names of the fields seen. -/
def readMembers (fields : List (RecordField σ)) (ending : Ending) :
    List String → σ → List (Option String × Tree) → Except Fault (List String × σ)
  | seen, record, [] =>
    match ending with
    | .closed => .ok (seen, record)
    | .stray (some key) =>
      .error (if repeats fields seen key then .mismatch (.duplicateField key) else .malformed)
    | _ => .error .malformed
  | _, _, (none, _) :: _ => .error .malformed
  | seen, record, (some key, value) :: rest =>
    match fields.find? (·.name == key) with
    | none =>
      if value.isIntact then readMembers fields ending seen record rest else .error .malformed
    | some field =>
      if seen.contains key then .error (.mismatch (.duplicateField key))
      else do
        let record ← field.read value record
        readMembers fields ending (key :: seen) record rest

/-- A record from the members of an object. -/
def ofMembers (fields : List (RecordField σ)) (blank : σ) (members : List (Option String × Tree))
    (ending : Ending) : Except Fault σ := do
  let (seen, record) ← readMembers fields ending [] blank members
  match fields.find? fun field => field.required && !seen.contains field.name with
  | some field => .error (.mismatch (.missingField field.name))
  | none => .ok record

/-- Reads the items of an array into the fields of a record, with the items that are left. -/
def readItems (expected : String) (closed : Bool) :
    Nat → List (RecordField σ) → σ → List Tree → Except Fault (List Tree × σ)
  | _, [], record, items => .ok (items, record)
  | index, field :: fields, record, item :: items => do
    let record ← field.read item record
    readItems expected closed (index + 1) fields record items
  | index, field :: fields, record, [] =>
    if closed then
      match (field :: fields).findIdx? (·.required) with
      | some missing => .error (.mismatch (.wrongLength (index + missing) expected))
      | none => .ok ([], record)
    else .error .malformed

def elements (count : Nat) : String :=
  if count = 1 then "1 element" else s!"{count} elements"

/-- A record from an object or an array. -/
def record (name : String) (fields : List (RecordField σ)) (blank : σ) : Tree → Except Fault σ
  | .object members ending => ofMembers fields blank members ending
  | .array items closed => do
    let expected := s!"{name} with {elements fields.length}"
    let (left, record) ← readItems expected closed 0 fields blank items
    if left.isEmpty && closed then .ok record else .error .malformed
  | tree => wrongType name tree

/-! ## Texts -/

/-- The value that a text holds, with nothing after it. -/
def decodeText {α : Type} (decode : Tree → Except Fault α) (text : String) : Except Fault α := do
  let (tree, trailing) := Json.read text.toList
  let value ← decode tree
  if trailing then .error .malformed else .ok value

end LoginGate.Json
