import LoginGate.Text.Numeral

/-! # TOML keys and strings

The parts of a TOML document below its values: blanks, line ends, comments, keys and strings. Every
function takes the text from where the part begins and gives the text after it.

Control characters other than the tab are forbidden everywhere; lines end with a line feed, which a
carriage return may precede.
-/

namespace LoginGate.Toml

open Text

def isBlank (c : Char) : Bool :=
  c == ' ' || c == '\t'

/-- The characters that may stand in a comment, and in strings unless they mean something there. -/
def isPlain (c : Char) : Bool :=
  c == '\t' || (0x20 ≤ c.toNat && c.toNat != 0x7F)

def skipBlanks (text : List Char) : List Char :=
  text.dropWhile isBlank

def newline? : List Char → Option (List Char)
  | '\n' :: rest | '\r' :: '\n' :: rest => some rest
  | _ => none

/-- The text after blanks, a comment if any, and the end of the line or of the text. -/
def lineEnd? (text : List Char) : Option (List Char) :=
  let rest := match skipBlanks text with
    | '#' :: comment => comment.dropWhile isPlain
    | rest => rest
  if rest.isEmpty then some [] else newline? rest

/-- The text after blanks, comments and line ends. -/
def skipGaps? (inComment : Bool) : List Char → Option (List Char)
  | [] => some []
  | '\n' :: rest | '\r' :: '\n' :: rest => skipGaps? false rest
  | c :: rest =>
    if inComment then if isPlain c then skipGaps? true rest else none
    else if isBlank c then skipGaps? false rest
    else if c = '#' then skipGaps? true rest
    else some (c :: rest)

/-! ## Strings -/

/-- The character with the number that this many hexadecimal digits denote. -/
def scalar? (width : Nat) (text : List Char) : Option (Char × Nat) :=
  let digits := text.take width
  if digits.length = width then do
    let n ← numeral? 16 digits
    if n.isValidChar then some (Char.ofNat n, width + 1) else none
  else none

/-- The character of an escape after its backslash, and how many characters that takes. -/
def escape? : List Char → Option (Char × Nat)
  | 'b' :: _ => some ('\x08', 1)
  | 't' :: _ => some ('\t', 1)
  | 'n' :: _ => some ('\n', 1)
  | 'f' :: _ => some ('\x0c', 1)
  | 'r' :: _ => some ('\r', 1)
  | '"' :: _ => some ('"', 1)
  | '\\' :: _ => some ('\\', 1)
  | 'u' :: rest => scalar? 4 rest
  | 'U' :: rest => scalar? 8 rest
  | _ => none

/-- A string after its opening double quote. `skip` characters belong to an escape already read, and
`chars` is the text so far in reverse. -/
def basic? (skip : Nat) (chars : List Char) : List Char → Option (String × List Char)
  | [] => none
  | c :: rest =>
    match skip with
    | skip + 1 => basic? skip chars rest
    | 0 =>
      if c = '"' then some (String.ofList chars.reverse, rest)
      else if c = '\\' then
        match escape? rest with
        | some (char, used) => basic? used (char :: chars) rest
        | none => none
      else if isPlain c then basic? 0 (c :: chars) rest
      else none

def literal? (chars : List Char) : List Char → Option (String × List Char)
  | [] => none
  | c :: rest =>
    if c = '\'' then some (String.ofList chars.reverse, rest)
    else if isPlain c then literal? (c :: chars) rest
    else none

def quotes (quote : Char) (text : List Char) : Nat :=
  ((text.take 5).takeWhile (· == quote)).length

def skipNewline (text : List Char) : List Char :=
  (newline? text).getD text

/-- A string of several lines after its three opening double quotes.

Three quotes close it; up to two more may stand before these. A backslash at the end of a line
removes everything up to the next character that is neither a blank nor a line end, for which
`trimming` stands. -/
def multiBasic? (skip : Nat) (trimming : Bool) (chars : List Char) :
    List Char → Option (String × List Char)
  | [] => none
  | c :: rest =>
    match skip with
    | skip + 1 => multiBasic? skip trimming chars rest
    | 0 =>
      if c = '\r' then
        if rest.head? = some '\n' then multiBasic? 0 trimming chars rest else none
      else if trimming && (isBlank c || c == '\n') then multiBasic? 0 true chars rest
      else if c = '"' then
        match quotes '"' (c :: rest) with
        | count + 3 =>
          some (String.ofList (chars.reverse ++ List.replicate count '"'), rest.drop (count + 2))
        | _ => multiBasic? 0 false (c :: chars) rest
      else if c = '\\' then
        match escape? rest with
        | some (char, used) => multiBasic? used false (char :: chars) rest
        | none =>
          if (newline? (skipBlanks rest)).isSome then multiBasic? 0 true chars rest else none
      else if isPlain c || c == '\n' then multiBasic? 0 false (c :: chars) rest
      else none

/-- A string of several lines after its three opening single quotes. -/
def multiLiteral? (chars : List Char) : List Char → Option (String × List Char)
  | [] => none
  | c :: rest =>
    if c = '\r' then if rest.head? = some '\n' then multiLiteral? chars rest else none
    else if c = '\'' then
      match quotes '\'' (c :: rest) with
      | count + 3 =>
        some (String.ofList (chars.reverse ++ List.replicate count '\''), rest.drop (count + 2))
      | _ => multiLiteral? (c :: chars) rest
    else if isPlain c || c == '\n' then multiLiteral? (c :: chars) rest
    else none

def string? : List Char → Option (String × List Char)
  | '"' :: '"' :: '"' :: rest => multiBasic? 0 false [] (skipNewline rest)
  | '"' :: rest => basic? 0 [] rest
  | '\'' :: '\'' :: '\'' :: rest => multiLiteral? [] (skipNewline rest)
  | '\'' :: rest => literal? [] rest
  | _ => none

/-! ## Keys -/

def isKeyChar (c : Char) : Bool :=
  c.isAlphanum || c == '_' || c == '-'

def simpleKey? (text : List Char) : Option (String × List Char) :=
  match text with
  | '"' :: rest => basic? 0 [] rest
  | '\'' :: rest => literal? [] rest
  | _ =>
    let chars := text.takeWhile isKeyChar
    if chars.isEmpty then none else some (String.ofList chars, text.drop chars.length)

/-- The parts a key may have. -/
def maxKeyParts : Nat := 79

/-- Up to `most` parts of a key, with dots between them and blanks around each. -/
def keyParts? : Nat → List Char → Option (List String × List Char)
  | 0, _ => none
  | most + 1, text => do
    let (part, rest) ← simpleKey? (skipBlanks text)
    match skipBlanks rest with
    | '.' :: rest =>
      let (parts, rest) ← keyParts? most rest
      some (part :: parts, rest)
    | rest => some ([part], rest)

def key? : List Char → Option (List String × List Char) :=
  keyParts? maxKeyParts

end LoginGate.Toml
