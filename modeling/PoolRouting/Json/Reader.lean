import PoolRouting.Json.Token

/-!
Reading JSON text. Open containers wait on a stack while their contents are read, so that one pass
over the tokens suffices whatever the depth.
-/

namespace PoolRouting.Json

/-- A container that is still open, with its contents in reverse. An object key that denotes no
text is kept as `none` and spoils the object. -/
inductive Frame where
  | array (items : List Json)
  | object (fields : List (Option String × Json)) (key : Option String)

/-- What may come next. -/
inductive Expectation where
  | value
  | firstItem
  | firstKey
  | key
  | colon
  | separator
  | nothing

def closeArray (items : List Json) : Json := .array items.reverse

def closeObject (fields : List (Option String × Json)) : Json :=
  match fields.reverse.mapM fun (key, value) => key.map fun key => (key, value) with
  | some fields => .object fields
  | none => .unreadable

/-- The reader: what may come next, the open containers, and the value once it is complete. -/
structure Reading where
  expectation : Expectation
  stack : List Frame
  result : Json

def Reading.start : Reading := ⟨.value, [], .null⟩

/-- Hands a complete value to the innermost open container. -/
def Reading.supply (reading : Reading) (value : Json) : Reading :=
  match reading.stack with
  | [] => { reading with expectation := .nothing, result := value }
  | .array items :: rest =>
    { reading with expectation := .separator, stack := .array (value :: items) :: rest }
  | .object fields key :: rest =>
    { reading with
      expectation := .separator
      stack := .object ((key, value) :: fields) none :: rest }

def Reading.openWith (reading : Reading) (expectation : Expectation) (frame : Frame) : Reading :=
  { reading with expectation := expectation, stack := frame :: reading.stack }

def Reading.setKey (reading : Reading) (key : Option String) : Option Reading :=
  match reading.stack with
  | .object fields _ :: rest =>
    some { reading with expectation := .colon, stack := .object fields key :: rest }
  | _ => none

/-- A string that denotes no text stands as an unreadable value. -/
def ofString : Option String → Json
  | some text => .string text
  | none => .unreadable

def Reading.valueToken (reading : Reading) : Token → Option Reading
  | .openArray => some (reading.openWith .firstItem (.array []))
  | .openObject => some (reading.openWith .firstKey (.object [] none))
  | .string text => some (reading.supply (ofString text))
  | .literal value => some (reading.supply value)
  | _ => none

def Reading.keyToken (reading : Reading) : Token → Option Reading
  | .string text => reading.setKey text
  | _ => none

def Reading.close (reading : Reading) : Token → Option Reading
  | .closeArray =>
    match reading.stack with
    | .array items :: rest =>
      some (Reading.supply { reading with stack := rest } (closeArray items))
    | _ => none
  | .closeObject =>
    match reading.stack with
    | .object fields _ :: rest =>
      some (Reading.supply { reading with stack := rest } (closeObject fields))
    | _ => none
  | _ => none

/-- After a comma an array goes on with a value and an object with a key. -/
def Reading.comma (reading : Reading) : Option Reading :=
  match reading.stack with
  | .array _ :: _ => some { reading with expectation := .value }
  | .object _ _ :: _ => some { reading with expectation := .key }
  | [] => none

def Reading.step (reading : Reading) (token : Token) : Option Reading :=
  match reading.expectation, token with
  | .value, token => reading.valueToken token
  | .firstItem, .closeArray => reading.close .closeArray
  | .firstItem, token => reading.valueToken token
  | .firstKey, .closeObject => reading.close .closeObject
  | .firstKey, token => reading.keyToken token
  | .key, token => reading.keyToken token
  | .colon, .colon => some { reading with expectation := .value }
  | .separator, .comma => reading.comma
  | .separator, token => reading.close token
  | _, _ => none

def Reading.run (reading : Reading) : List Token → Option Json
  | [] =>
    match reading.expectation with
    | .nothing => some reading.result
    | _ => none
  | token :: rest =>
    match reading.step token with
    | some reading => reading.run rest
    | none => none

/-- Reads one JSON value with nothing but white space around it. -/
def ofText? (text : String) : Option Json :=
  (tokens? .between [] text.toList).bind Reading.start.run

end PoolRouting.Json
