import PoolRouting.Json
import PoolRouting.Amount
import PoolRouting.Binary64.Shortest
import PoolRouting.Decimal.Scientific
import PoolRouting.Text.Blank

/-!
Reading domain values out of JSON values. A record is an object with known field names or an array
of its fields in their declared order; unknown fields are passed over and a repeated known field is
refused.
-/

namespace PoolRouting

/-- A reader of documents says which values it accepts and what they mean. -/
abbrev Reader (α : Type) := Json → Option α

namespace Reader
variable {α : Type}

def text : Reader String
  | .string value => some value
  | _ => none

/-- A natural number below a limit, written as an integer. -/
def natural (limit : Nat) : Reader Nat
  | .integer value => if 0 ≤ value ∧ value < limit then some value.toNat else none
  | _ => none

def word32 : Reader UInt32 := fun document => (natural UInt32.size document).map UInt32.ofNat

def word64 : Reader UInt64 := fun document => (natural UInt64.size document).map UInt64.ofNat

def list (item : Reader α) : Reader (List α)
  | .array items => items.mapM item
  | _ => none

/-- A null stands for an absent value. -/
def optional (value : Reader α) : Reader (Option α)
  | .null => some none
  | document => (value document).map some

/-- Amounts are strings, so that no reader of JSON loses digits. -/
def amount : Reader Amount := fun document =>
  (text document).bind fun raw => Amount.ofChars? (Text.trimBlanks raw.toList)

-- The nearest double of a number is read by its shortest positional text.
/-- Decimals may be strings or numbers. -/
def decimal : Reader Decimal
  | .string raw => Decimal.ofText? raw
  | .integer value =>
    if fits : value.natAbs ≤ Decimal.maxMantissa then
      some (Decimal.whole (decide (value < 0)) value.natAbs fits)
    else none
  | .double negative rank => (Decimal.plain (Binary64.chars negative rank)).toOption
  | _ => none

/-- One of a few named values, by the name alone. -/
def named (choices : List (String × α)) : Reader α := fun document =>
  (text document).bind fun name => choices.lookup name

/-- One of a few named values: the name alone, or an object with the name over null. -/
def choice (choices : List (String × α)) : Reader α
  | .object [(name, .null)] => choices.lookup name
  | document => named choices document

/-- Inside a record that is merged into another one, an empty object may take the place of null. -/
def mergedChoice (choices : List (String × α)) : Reader α
  | .object [(name, .object [])] => choices.lookup name
  | document => choice choices document

end Reader

/-- The known fields that a document gives. -/
structure Record where
  fields : List (String × Json)
  /-- The document was an array, so every absent field lies behind the last one given. -/
  positional : Bool

namespace Record
variable {α : Type}

def ofFields? (names : List String) (fields : List (String × Json)) : Option Record :=
  let known := fields.filter fun field => names.contains field.1
  if (known.map Prod.fst).Nodup then some ⟨known, false⟩ else none

def ofJson? (names : List String) : Json → Option Record
  | .object fields => ofFields? names fields
  | .array items => if items.length ≤ names.length then some ⟨names.zip items, true⟩ else none
  | _ => none

def required (record : Record) (name : String) (value : Reader α) : Option α :=
  (record.fields.lookup name).bind value

def defaulted (record : Record) (name : String) (default : α) (value : Reader α) : Option α :=
  match record.fields.lookup name with
  | some document => value document
  | none => some default

/-- A field that an object may leave out and an array may not. -/
def omissible (record : Record) (name : String) (value : Reader α) : Option (Option α) :=
  if record.positional then record.required name (Reader.optional value)
  else record.defaulted name none (Reader.optional value)

end Record
end PoolRouting
