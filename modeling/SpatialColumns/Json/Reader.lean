import SpatialColumns.Json.Token
/-! # Reading JSON

A value is read token by token. The containers that are still open lie on a
stack, so the depth of a text has no bound. -/

namespace SpatialColumns.Json

/-- A container that is still open. Its parts are kept with the last one first. -/
inductive Frame where
  | array (items : List Json)
  | object (members : List (Option String × Json))
  /-- An object with the key of the member whose value comes next. -/
  | member (members : List (Option String × Json)) (key : Option String)

inductive Reader where
  /-- A value has to follow. -/
  | beforeValue (stack : List Frame)
  /-- A value or the end of the array has to follow. -/
  | beforeItem (stack : List Frame)
  /-- A key has to follow. -/
  | beforeKey (stack : List Frame)
  /-- A key or the end of the object has to follow. -/
  | beforeMember (stack : List Frame)
  /-- A colon has to follow. -/
  | beforeColon (stack : List Frame)
  /-- A comma or the end of the innermost container has to follow. -/
  | afterValue (stack : List Frame)
  /-- Nothing may follow. -/
  | done (value : Json)

namespace Reader

/-- Puts a complete value where it belongs. -/
def place (stack : List Frame) (v : Json) : Option Reader :=
  match stack with
  | [] => some (.done v)
  | .array items :: stack => some (.afterValue (.array (v :: items) :: stack))
  | .member members key :: stack => some (.afterValue (.object ((key, v) :: members) :: stack))
  | .object _ :: _ => none

/-- Starts a value. -/
def start (stack : List Frame) : Token → Option Reader
  | .openArray => some (.beforeItem (.array [] :: stack))
  | .openObject => some (.beforeMember (.object [] :: stack))
  | .string text => place stack (.string text)
  | .literal v => place stack v
  | _ => none

/-- Reads a key. -/
def startMember (stack : List Frame) : Token → Option Reader
  | .string text =>
    match stack with
    | .object members :: stack => some (.beforeColon (.member members text :: stack))
    | _ => none
  | _ => none

/-- Ends the innermost container. -/
def close (stack : List Frame) : Token → Option Reader
  | .closeArray =>
    match stack with
    | .array items :: stack => place stack (.array items.reverse)
    | _ => none
  | .closeObject =>
    match stack with
    | .object members :: stack => place stack (.object members.reverse)
    | _ => none
  | _ => none

/-- Goes on to the next part of the innermost container. -/
def next (stack : List Frame) : Option Reader :=
  match stack with
  | .array _ :: _ => some (.beforeValue stack)
  | .object _ :: _ => some (.beforeKey stack)
  | _ => none

def step (r : Reader) (t : Token) : Option Reader :=
  match r, t with
  | .beforeValue stack, t => start stack t
  | .beforeItem stack, .closeArray => close stack .closeArray
  | .beforeItem stack, t => start stack t
  | .beforeKey stack, t => startMember stack t
  | .beforeMember stack, .closeObject => close stack .closeObject
  | .beforeMember stack, t => startMember stack t
  | .beforeColon stack, .colon => some (.beforeValue stack)
  | .beforeColon _, _ => none
  | .afterValue stack, .comma => next stack
  | .afterValue stack, t => close stack t
  | .done _, _ => none

def value? : Reader → Option Json
  | .done v => some v
  | _ => none

end Reader

/-- The value that a text, all of it, stands for. -/
def parse (text : String) : Option Json := do
  (← (← tokens? text).foldlM Reader.step (.beforeValue [])).value?

end SpatialColumns.Json
