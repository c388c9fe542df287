import LoginGate.Service
import LoginGate.Text.Fields

/-! # Sessions

A session is a stream of bytes from a client, cut into lines. A line ends with a line feed or with
the stream. Every line that is not blank is trimmed and answered with one line of JSON.

Two things end a session early. A line of more than `maxLine` bytes is answered with a complaint,
and a line that is not UTF-8 with nothing at all. No more than `maxLine + 1` bytes of a line are
looked at for either, so a long line counts as not UTF-8 if the cut falls inside a character.
-/

namespace LoginGate

namespace Session

/-- The bytes a line may have, its line feed included. -/
def maxLine : Nat := 65536

def lineFeed : UInt8 := 10

/-- The bytes up to and including the first line feed, but at most `most`, and what is left. -/
def cut : Nat → List UInt8 → List UInt8 × List UInt8
  | 0, bytes => ([], bytes)
  | _, [] => ([], [])
  | most + 1, byte :: bytes =>
    if byte = lineFeed then ([byte], bytes)
    else
      let (line, rest) := cut most bytes
      (byte :: line, rest)

theorem length_cut (most : Nat) (bytes : List UInt8) :
    (cut most bytes).1.length + (cut most bytes).2.length = bytes.length := by
  induction most generalizing bytes with
  | zero => simp [cut]
  | succ most ih =>
    cases bytes with
    | nil => simp [cut]
    | cons byte bytes =>
      rw [cut]
      split
      · simp; omega
      · have shorter := ih bytes
        simp only [List.length_cons]
        omega

/-- A line is cut from every stream that has a byte left. -/
theorem cut_ne_nil (most : Nat) (byte : UInt8) (bytes : List UInt8) :
    (cut (most + 1) (byte :: bytes)).1 ≠ [] := by
  rw [cut]
  split <;> simp

/-- The lines of a stream, the last perhaps cut short at `maxLine + 1` bytes. -/
def lines (bytes : List UInt8) : List (List UInt8) :=
  match bytes with
  | [] => []
  | byte :: bytes =>
    (cut (maxLine + 1) (byte :: bytes)).1 :: lines (cut (maxLine + 1) (byte :: bytes)).2
termination_by bytes.length
decreasing_by
  have total := length_cut (maxLine + 1) (byte :: bytes)
  have some := List.length_pos_iff.mpr (cut_ne_nil maxLine byte bytes)
  omega

/-- The next line of a stream of which some bytes have arrived, and the bytes after it. Unless the
stream has ended, a line has to be complete or too long. -/
def next? (ended : Bool) (arrived : List UInt8) : Option (List UInt8 × List UInt8) :=
  let (line, rest) := cut (maxLine + 1) arrived
  if line.getLast? = some lineFeed || maxLine < line.length || (ended && !line.isEmpty) then
    some (line, rest)
  else none

/-- The text of some bytes, if they are UTF-8. -/
def decode? (bytes : List UInt8) : Option (List Char) :=
  (String.fromUTF8? ⟨bytes.toArray⟩).map String.toList

/-- What a line asks of the service. -/
inductive Demand where
  /-- The line is too long. -/
  | tooLong
  /-- The line is not UTF-8. -/
  | undecodable
  /-- The line is blank. -/
  | nothing
  /-- The line is to be answered. -/
  | answer (line : String)
  deriving DecidableEq, Repr

/-- Nothing after such a line is read. -/
def Demand.endsSession : Demand → Bool
  | tooLong | undecodable => true
  | nothing | answer _ => false

/-- What the bytes of a line ask. -/
def demand (line : List UInt8) : Demand :=
  match decode? line with
  | none => .undecodable
  | some text =>
    if maxLine < line.length then .tooLong
    else if (Text.trim text).isEmpty then .nothing
    else .answer (String.ofList (Text.trim text))

def tooLong : Response :=
  .failure .validation none "request line too long"

variable {σ β : Type} [RuleStore σ] [Limiter β]

/-- Answers lines until one ends the session. -/
def answerLines (gate : Gate σ β) : List (List UInt8) → List Response × Gate σ β
  | [] => ([], gate)
  | line :: rest =>
    match demand line with
    | .tooLong => ([tooLong], gate)
    | .undecodable => ([], gate)
    | .nothing => answerLines gate rest
    | .answer text =>
      let (response, gate) := Service.handleLine gate text
      let (responses, gate) := answerLines gate rest
      (response :: responses, gate)

/-- The responses to a stream of bytes, and the gate after them. -/
def serve (gate : Gate σ β) (bytes : List UInt8) : List Response × Gate σ β :=
  answerLines gate (lines bytes)

/-- The bytes written for a response: its JSON text and a line feed. -/
def written (response : Response) : List UInt8 :=
  response.toJson.toText.toUTF8.toList ++ [lineFeed]

end Session

/-! ## The client's side of a session

A client writes a request as one line and reads one line in return.
-/

namespace Client

/-- Why there is no response to a request. -/
inductive Fault where
  /-- The connection failed. -/
  | connection (reason : String)
  /-- The service closed the session. -/
  | closed
  /-- What the service wrote is no response. -/
  | undecodable (fault : Json.Fault)

def Fault.message : Fault → String
  | connection reason => s!"connection error: {reason}"
  | closed => "server closed the connection"
  | undecodable fault => s!"bad response: {fault.message}"

def written (request : Request) : List UInt8 :=
  request.toJson.toText.toUTF8.toList ++ [Session.lineFeed]

/-- The response in the bytes up to a line feed or the end. -/
def response (line : List UInt8) : Except Fault Response :=
  if line.isEmpty then .error .closed
  else
    match Session.decode? line with
    | none => .error (.connection "stream did not contain valid UTF-8")
    | some text =>
      (Json.decodeText Response.ofJson (String.ofList (Text.trimRight text))).mapError .undecodable

/-- The response in what a service writes: everything after the first line is ignored. -/
def reply (bytes : List UInt8) : Except Fault Response :=
  response (Session.cut bytes.length bytes).1

end Client
end LoginGate
