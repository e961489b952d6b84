import PoolRouting.Decimal.Scientific
import PoolRouting.Failure
import PoolRouting.Text.Blank

/-!
The ledger as the router reads it: pools, token metadata and reference prices at one point in time.
Each of the three can be out of service, and every read is counted, answered or not.
-/

namespace PoolRouting

structure Snapshot where
  pools : List Pool
  tokens : List Token
  /-- Reference prices as written; of two for one token the later holds. -/
  prices : List (TokenId × String)
  deriving DecidableEq

/-- Reads so far, by what was read. -/
structure Reads where
  pools : Nat
  tokens : Nat
  prices : Nat
  deriving DecidableEq

def Reads.zero : Reads := ⟨0, 0, 0⟩

/-- A snapshot with the outage message of each service that is down. -/
structure Ledger where
  snapshot : Snapshot
  poolsDown : Option String
  tokensDown : Option String
  pricesDown : Option String
  deriving DecidableEq

def Ledger.ofSnapshot (snapshot : Snapshot) : Ledger := ⟨snapshot, none, none, none⟩

/-- Reads the price that a ledger gives as text. -/
def parsePrice (raw : String) : Except ProviderError Decimal :=
  match Decimal.read (Text.trimBlanks raw.toList) with
  | .error reason => .error (.unreadable (.invalid raw reason))
  | .ok price => if price.negative then .error (.unreadable (.negative raw)) else .ok price

namespace Ledger

/-- An outage hides the answer. -/
def answer {α : Type} (service : String) (outage : Option String) (value : Except ProviderError α) :
    Except ProviderError α :=
  match outage with
  | some message => .error (.unavailable service message)
  | none => value

def pools (ledger : Ledger) : Except ProviderError (List Pool) :=
  answer "pools" ledger.poolsDown (.ok ledger.snapshot.pools)

def token (ledger : Ledger) (id : TokenId) : Except ProviderError Token :=
  answer "tokens" ledger.tokensDown <|
    match ledger.snapshot.tokens.find? fun token => token.id = id with
    | some token => .ok token
    | none => .error (.notFound (.metadata id))

def price (ledger : Ledger) (id : TokenId) : Except ProviderError String :=
  answer "prices" ledger.pricesDown <|
    match ledger.snapshot.prices.reverse.lookup id with
    | some raw => .ok raw
    | none => .error (.notFound (.price id))

end Ledger

/-- A computation that reads the ledger, may fail, and counts its reads. -/
abbrev Consultation (α : Type) := ExceptT RouterError (StateM Reads) α

namespace Consultation
variable {α : Type}

/-- A read that is counted before it is answered. -/
def read (count : Reads → Reads) (value : Except ProviderError α) : Consultation α := do
  modify count
  match value with
  | .ok value => pure value
  | .error error => throw (.provider error)

def readPools (value : Except ProviderError α) : Consultation α :=
  read (fun reads => { reads with pools := reads.pools + 1 }) value

def readTokens (value : Except ProviderError α) : Consultation α :=
  read (fun reads => { reads with tokens := reads.tokens + 1 }) value

def readPrices (value : Except ProviderError α) : Consultation α :=
  read (fun reads => { reads with prices := reads.prices + 1 }) value

end Consultation
end PoolRouting
