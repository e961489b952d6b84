import PoolRouting.Cache
import PoolRouting.Transaction

/-!
A router at work: one configuration, a ledger, and a cache of quotes. A quote is cached under its
question, tolerances compared by value; the lifetime of the cache outlasts the session.
-/

namespace PoolRouting

/-- A question up to the scale of its tolerance. -/
structure QuoteKey where
  tokenIn : TokenId
  tokenOut : TokenId
  direction : Option SwapDirection
  /-- The tolerance as a numerator over `10 ^ 28`. -/
  tolerance : Int
  deriving DecidableEq

/-- All decimals share the denominator `10 ^ 28`. -/
def Decimal.atMaxScale (value : Decimal) : Int :=
  value.signed * (placeValue (Decimal.maxScale - value.scale) : Int)

def Inquiry.key (inquiry : Inquiry) : QuoteKey :=
  ⟨inquiry.tokenIn, inquiry.tokenOut, inquiry.direction, inquiry.tolerance.atMaxScale⟩

/-- The most quotes that are kept. -/
def maxQuotes : Nat := 10000

structure Session where
  config : RouterConfig
  ledger : Ledger
  reads : Reads
  /-- Absent when the configuration gives quotes no lifetime. -/
  cache : Option (Cache QuoteKey Quote)

namespace Session

def start (config : RouterConfig) (ledger : Ledger) : Session :=
  ⟨config, ledger, Reads.zero,
    if config.routing.quoteCacheSeconds = 0 then none else some (Cache.empty maxQuotes)⟩

/-- Computes a quote and counts its reads. -/
def compute (session : Session) (inquiry : Inquiry) : Except RouterError Quote × Session :=
  let (result, reads) := (Quote.compute session.config session.ledger inquiry).run.run session.reads
  (result, { session with reads := reads })

/-- Looks a checked question up before computing it. -/
def lookup (session : Session) (inquiry : Inquiry) : Except RouterError Quote × Session :=
  match session.cache with
  | none => session.compute inquiry
  | some cache =>
    match cache.request inquiry.key .lasting with
    | (cache, .hit quote) => (.ok quote, { session with cache := some cache })
    | (cache, .bypass) => Session.compute { session with cache := some cache } inquiry
    | (cache, .cell cell) =>
      let (result, session) := session.compute inquiry
      (result, { session with cache := some (cache.settle cell result) })

def quote (session : Session) (inquiry : Inquiry) : Except RouterError Quote × Session :=
  match inquiry.check with
  | .error error => (.error error, session)
  | .ok _ => session.lookup inquiry

/-- Answers a request. -/
def resolve (session : Session) (request : SwapRequest) : Except RouterError Quote × Session :=
  match Inquiry.ofRequest request with
  | .error error => (.error error, session)
  | .ok inquiry => session.quote inquiry

end Session
end PoolRouting
