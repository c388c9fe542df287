import LoginGate.Json.Tree
import LoginGate.Proofs.Json.Scanning

/-! # Written values are read back

The tree of a written value is the value itself. The induction follows how values are written: a
reader that waits for a value has, after the text of one, that value's tree, and the readers inside
a container gather what follows the first item.
-/

namespace LoginGate.Json

mutual

def tree : Json → Tree
  | null => .null
  | bool value => .bool value
  | nat value => .number ⟨false, Text.decimal value, [], none⟩
  | string text => .string (some text)
  | array items => .array (treeItems items) true
  | object members => .object (treeMembers members) .closed

def treeItems : List Json → List Tree
  | [] => []
  | item :: rest => tree item :: treeItems rest

def treeMembers : List (String × Json) → List (Option String × Tree)
  | [] => []
  | (key, value) :: rest => (some key, tree value) :: treeMembers rest

end

namespace Reader

def feed (reader : Reader) (text : List Char) : Reader :=
  (Token.ofText 0 text).foldl take reader

/-- The next token begins a value inside these containers, unless it ends an array. -/
def Awaits (reader : Reader) (stack : List Frame) : Prop :=
  ∀ token, token ≠ .endArray → reader.take token = beginValue stack token

theorem awaits_value (stack : List Frame) : (value stack).Awaits stack :=
  fun _ _ => rfl

theorem awaits_firstItem (stack : List Frame) : (firstItem stack).Awaits (.array [] :: stack) := by
  intro token other
  cases token with
  | endArray => exact absurd rfl other
  | _ => rfl

theorem feed_of_ofText {text rest : List Char} {token : Token}
    (first : Token.ofText 0 text = token :: Token.ofText 0 rest) (reader : Reader) :
    reader.feed text = (reader.take token).feed rest := by
  rw [feed, first, List.foldl_cons, feed]

theorem feed_written (text : String) (rest : List Char) (reader : Reader) :
    reader.feed (written text ++ rest) = (reader.take (.string (some text))).feed rest :=
  feed_of_ofText (Token.ofText_written text rest) reader

/-- What follows an item ends a number. -/
private theorem endsNumber_renderItems (items : List Json) (rest : List Char) :
    Token.endsNumber (renderItems items ++ rest) = true := by
  cases items <;> rfl

private theorem endsNumber_renderMembers (members : List (String × Json)) (rest : List Char) :
    Token.endsNumber (renderMembers members ++ rest) = true := by
  cases members <;> rfl

mutual

/-- A written value is read where a value is awaited. -/
theorem feed_render (json : Json) {reader : Reader} {stack : List Frame}
    (awaits : reader.Awaits stack) {rest : List Char} (ends : Token.endsNumber rest = true) :
    reader.feed (render json ++ rest) = (after stack json.tree).feed rest := by
  match json with
  | .null => exact congrArg (feed · rest) (awaits .null nofun)
  | .bool true => exact congrArg (feed · rest) (awaits (.bool true) nofun)
  | .bool false => exact congrArg (feed · rest) (awaits (.bool false) nofun)
  | .nat n =>
    rw [render, feed_of_ofText (Token.ofText_decimal n ends), awaits (.number _) nofun]
    rfl
  | .string text =>
    rw [render, feed_written, awaits (.string _) nofun]
    rfl
  | .array [] => exact congrArg (feed · (']' :: rest)) (awaits .beginArray nofun)
  | .array (first :: items) =>
    calc
      reader.feed (render (.array (first :: items)) ++ rest)
      _ = (reader.take .beginArray).feed (render first ++ (renderItems items ++ rest)) := by
        rw [render, List.append_assoc]
        rfl
      _ = (firstItem stack).feed (render first ++ (renderItems items ++ rest)) := by
        rw [awaits .beginArray nofun, beginValue]
      _ = (after (.array [] :: stack) first.tree).feed (renderItems items ++ rest) :=
        feed_render first (awaits_firstItem stack) (endsNumber_renderItems items rest)
      _ = (after stack (tree (.array (first :: items)))).feed rest :=
        feed_renderItems items [] first.tree stack rest
  | .object [] => exact congrArg (feed · ('\x7d' :: rest)) (awaits .beginObject nofun)
  | .object ((key, item) :: members) =>
    calc
      reader.feed (render (.object ((key, item) :: members)) ++ rest)
      _ = (reader.take .beginObject).feed
          (written key ++ ':' :: (render item ++ (renderMembers members ++ rest))) := by
        simp only [render, List.append_assoc, List.cons_append]
        rfl
      _ = (firstKey stack).feed
          (written key ++ ':' :: (render item ++ (renderMembers members ++ rest))) := by
        rw [awaits .beginObject nofun, beginValue]
      _ = (value (.object [] (some key) :: stack)).feed
          (render item ++ (renderMembers members ++ rest)) := by
        rw [feed_written]
        rfl
      _ = (after (.object [] (some key) :: stack) item.tree).feed
          (renderMembers members ++ rest) :=
        feed_render item (awaits_value _) (endsNumber_renderMembers members rest)
      _ = (after stack (tree (.object ((key, item) :: members)))).feed rest :=
        feed_renderMembers members [] (some key) item.tree stack rest

/-- The items after the first are gathered until the array ends. -/
theorem feed_renderItems (items : List Json) (done : List Tree) (last : Tree)
    (stack : List Frame) (rest : List Char) :
    (after (.array done :: stack) last).feed (renderItems items ++ rest) =
      (after stack (.array (done.reverse ++ last :: treeItems items) true)).feed rest := by
  match items with
  | [] =>
    rw [treeItems, ← List.reverse_cons]
    rfl
  | item :: items =>
    calc
      (after (.array done :: stack) last).feed (renderItems (item :: items) ++ rest)
      _ = (value (.array (last :: done) :: stack)).feed
          (render item ++ (renderItems items ++ rest)) := by
        rw [renderItems, List.append_assoc]
        rfl
      _ = (after (.array (last :: done) :: stack) item.tree).feed (renderItems items ++ rest) :=
        feed_render item (awaits_value _) (endsNumber_renderItems items rest)
      _ = (after stack (.array (done.reverse ++ last :: treeItems (item :: items)) true)).feed
          rest := by
        rw [feed_renderItems items (last :: done) item.tree stack rest, List.reverse_cons,
          List.append_assoc, List.singleton_append, treeItems]

theorem feed_renderMembers (members : List (String × Json))
    (done : List (Option String × Tree)) (key : Option String) (last : Tree)
    (stack : List Frame) (rest : List Char) :
    (after (.object done key :: stack) last).feed (renderMembers members ++ rest) =
      (after stack (.object (done.reverse ++ (key, last) :: treeMembers members) .closed)).feed
        rest := by
  match members with
  | [] =>
    rw [treeMembers, ← List.reverse_cons]
    rfl
  | (next, item) :: members =>
    calc
      (after (.object done key :: stack) last).feed (renderMembers ((next, item) :: members) ++ rest)
      _ = (nextKey stack ((key, last) :: done)).feed
          (written next ++ ':' :: (render item ++ (renderMembers members ++ rest))) := by
        simp only [renderMembers, List.append_assoc, List.cons_append]
        rfl
      _ = (value (.object ((key, last) :: done) (some next) :: stack)).feed
          (render item ++ (renderMembers members ++ rest)) := by
        rw [feed_written]
        rfl
      _ = (after (.object ((key, last) :: done) (some next) :: stack) item.tree).feed
          (renderMembers members ++ rest) :=
        feed_render item (awaits_value _) (endsNumber_renderMembers members rest)
      _ = (after stack (.object
          (done.reverse ++ (key, last) :: treeMembers ((next, item) :: members)) .closed)).feed
          rest := by
        rw [feed_renderMembers members ((key, last) :: done) (some next) item.tree stack rest,
          List.reverse_cons, List.append_assoc, List.singleton_append, treeMembers]

end

end Reader

/-- A written value is read back, with nothing left of the text. -/
theorem read_render (value : Json) : read value.render = (value.tree, false) := by
  have ends : Token.endsNumber [] = true := rfl
  have whole := Reader.feed_render value (Reader.awaits_value []) ends
  rw [List.append_nil] at whole
  exact congrArg Reader.finish whole

end LoginGate.Json
