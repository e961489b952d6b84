import Mathlib.Data.List.Dedup
import PoolRouting.Proofs.QuoteRepeats

/-!
The cache of a session is transparent: whatever was asked before, a request is answered as a router
without a cache answers it alone. While the cache has room for every key, the pools are read exactly
for the requests that no earlier success can serve.
-/

namespace PoolRouting

def RouterConfig.uncached (config : RouterConfig) : RouterConfig :=
  { config with routing := { config.routing with quoteCacheSeconds := 0 } }

/-- A request and its answer. -/
abbrev Entry := SwapRequest × Except RouterError Quote

/-- The entry answers the question with a quote. -/
def Entry.serves (inquiry : Inquiry) (entry : Entry) : Bool :=
  match entry.1.inquiry?, entry.2 with
  | .ok earlier, .ok _ => earlier.repeats inquiry
  | _, _ => false

/-- The request passes its checks and no entry before it serves it. -/
def computes (log : List Entry) (request : SwapRequest) : Bool :=
  match request.inquiry? with
  | .ok inquiry => !log.any (Entry.serves inquiry)
  | .error _ => false

/-- How many of the entries are computed, given those before them. -/
def computations (log : List Entry) : List Entry → Nat
  | [] => 0
  | entry :: rest => (computes log entry.1).toNat + computations (entry :: log) rest

/-- The keys that the requests look up. -/
def lookedUp (requests : List SwapRequest) : List QuoteKey :=
  requests.filterMap fun request => request.inquiry?.toOption.map Inquiry.key

theorem serves_iff (inquiry : Inquiry) (entry : Entry) :
    entry.serves inquiry = true ↔
      ∃ earlier quote, entry.1.inquiry? = .ok earlier ∧ entry.2 = .ok quote ∧
        earlier.key = inquiry.key := by
  obtain ⟨request, answer⟩ := entry
  unfold Entry.serves
  cases asked : request.inquiry? with
  | error error => simp
  | ok earlier => cases answer <;> simp [repeats_iff]

namespace Session

def answers (session : Session) : List SwapRequest → List (Except RouterError Quote)
  | [] => []
  | request :: rest => (session.resolve request).1 :: (session.resolve request).2.answers rest

def after (session : Session) : List SwapRequest → Session
  | [] => session
  | request :: rest => (session.resolve request).2.after rest

/-- What a router without a cache answers to the request alone. -/
def alone (config : RouterConfig) (ledger : Ledger) (request : SwapRequest) :
    Except RouterError Quote :=
  ((start config.uncached ledger).resolve request).1

theorem alone_eq (config : RouterConfig) (ledger : Ledger) (request : SwapRequest) :
    alone config ledger request =
      request.inquiry?.bind fun inquiry => (Quote.compute config ledger inquiry).answer .zero :=
  resolve_start config.uncached ledger request

/-- Nothing stood in the way of a request that is quoted. -/
theorem ready_of_alone {config : RouterConfig} {ledger : Ledger} {request : SwapRequest}
    {quote : Quote} (quoted : alone config ledger request = .ok quote) :
    ∃ inquiry pools graph facts, request.inquiry? = .ok inquiry ∧
      Ready config ledger inquiry.tokenIn inquiry.tokenOut pools graph facts ∧
      Quote.assemble config inquiry graph facts = .ok quote := by
  rw [alone_eq, bind_ok_iff] at quoted
  obtain ⟨inquiry, asked, quoted⟩ := quoted
  obtain ⟨pools, graph, facts, ready⟩ := Quote.ready_of_answer quoted
  exact ⟨inquiry, pools, graph, facts, asked, ready,
    (Quote.answer_of_ready .zero ready).symm.trans quoted⟩

theorem after_reached {config : RouterConfig} {session : Session} (reached : Reached config session)
    (requests : List SwapRequest) : Reached config (session.after requests) := by
  induction requests generalizing session with
  | nil => exact reached
  | cons request rest ih => exact ih (.resolve reached request)

/-- A request of the log was answered with the quote, and it has the key. -/
def Recalls (config : RouterConfig) (ledger : Ledger) (log : List Entry) (key : QuoteKey)
    (quote : Quote) : Prop :=
  ∃ request inquiry, (request, .ok quote) ∈ log ∧ request.inquiry? = .ok inquiry ∧
    inquiry.key = key ∧ (Quote.compute config ledger inquiry).answer .zero = .ok quote

/-- What the cache of a session knows after the entries of a log, latest first. -/
structure Remembers (config : RouterConfig) (ledger : Ledger) (log : List Entry)
    (session : Session) (cache : Cache QuoteKey Quote) : Prop where
  configured : session.config = config
  unchanged : session.ledger = ledger
  kept : session.cache = some cache
  sound : cache.Sound
  limit : cache.capacity = maxQuotes
  lasting : ∀ slot ∈ cache.slots, slot.lifetime = .lasting
  stored : cache.Stores (Recalls config ledger log)

section Steps
variable {config : RouterConfig} {ledger : Ledger} {log : List Entry} {session next : Session}
variable {cache : Cache QuoteKey Quote} {request : SwapRequest} {inquiry : Inquiry}
variable {result : Except RouterError Quote}

theorem answer_of_remembers (remembers : Remembers config ledger log session cache)
    (inquiry : Inquiry) :
    session.answer inquiry = (Quote.compute config ledger inquiry).answer .zero := by
  rw [answer, remembers.configured, remembers.unchanged, Quote.compute_answer,
    Quote.compute_answer]

theorem remembers_cons (remembers : Remembers config ledger log session cache) (entry : Entry) :
    Remembers config ledger (entry :: log) session cache := by
  refine { remembers with stored := fun slot member quote filled => ?_ }
  obtain ⟨request, inquiry, listed, rest⟩ := remembers.stored slot member quote filled
  exact ⟨request, inquiry, List.mem_cons_of_mem _ listed, rest⟩

-- A request adds at most one slot, which lasts and is empty.
theorem remembers_admitted (remembers : Remembers config ledger log session cache)
    {later : Cache QuoteKey Quote} {admission : Admission Quote} {key : QuoteKey}
    (admits : cache.Admits key .lasting later admission) (reads : Reads) :
    Remembers config ledger log { session with reads := reads, cache := some later } later where
  configured := remembers.configured
  unchanged := remembers.unchanged
  kept := rfl
  sound := Cache.sound_of_admits remembers.sound admits
  limit := (Cache.capacity_of_admits admits).trans remembers.limit
  lasting := by
    intro slot member
    rcases Cache.mem_of_admits admits member with old | rfl
    · exact remembers.lasting slot old
    · rfl
  stored := Cache.stores_of_admits remembers.stored admits

theorem remembers_settled (remembers : Remembers config ledger log session cache) {cell : Nat}
    {key : QuoteKey} (owned : ∃ slot ∈ cache.slots, slot.key = key ∧ slot.cell = cell)
    (recalls : ∀ quote, result = .ok quote → Recalls config ledger log key quote) :
    Remembers config ledger log { session with cache := some (cache.settle cell result) }
      (cache.settle cell result) where
  configured := remembers.configured
  unchanged := remembers.unchanged
  kept := rfl
  sound := Cache.settle_sound remembers.sound cell result
  limit := by
    rw [← remembers.limit]
    cases result <;> rfl
  lasting := by
    cases result with
    | error error => exact remembers.lasting
    | ok quote =>
      intro slot member
      obtain ⟨old, found, _, _, life⟩ := Cache.origin_of_fill member
      rw [← life]
      exact remembers.lasting old found
  stored := Cache.settle_stores remembers.sound remembers.stored owned result recalls

theorem lookup_remembers (remembers : Remembers config ledger log session cache)
    (asked : request.inquiry? = .ok inquiry)
    (looks : LooksUp session cache inquiry result next) :
    Quote.Agrees ((Quote.compute config ledger inquiry).answer .zero) result ∧
      ∃ later, Remembers config ledger ((request, result) :: log) next later := by
  have checked := check_of_inquiry asked
  have answered := answer_of_remembers remembers inquiry
  cases looks with
  | found slot quote member named filled =>
    refine ⟨?_, cache, remembers_cons remembers _⟩
    obtain ⟨earlier, question, _, posed, same, given⟩ := remembers.stored slot member quote filled
    rw [← given]
    exact Quote.answer_agrees config ledger checked (check_of_inquiry posed)
      ((repeats_iff question inquiry).mpr (same.trans named)) _ _
  | stored later cell admits =>
    refine ⟨answered ▸ Quote.agrees_self _, ?_⟩
    have admitted := remembers_cons (remembers_admitted remembers admits
      (session.computed inquiry).reads) (request, session.answer inquiry)
    refine ⟨_, remembers_settled admitted (Cache.slot_of_admits admits) fun quote given => ?_⟩
    rw [given] at answered ⊢
    exact ⟨request, inquiry, List.mem_cons_self, asked, rfl, answered.symm⟩
  | bypassed later admits =>
    refine ⟨answered ▸ Quote.agrees_self _, later, ?_⟩
    exact remembers_cons (remembers_admitted remembers admits (session.computed inquiry).reads) _

theorem resolve_remembers (remembers : Remembers config ledger log session cache)
    (request : SwapRequest) :
    Quote.Agrees (alone config ledger request) (session.resolve request).1 ∧
      ∃ later, Remembers config ledger ((request, (session.resolve request).1) :: log)
        (session.resolve request).2 later := by
  rw [alone_eq, resolve_eq]
  cases asked : request.inquiry? with
  | error error => exact ⟨.refused error, cache, remembers_cons remembers _⟩
  | ok inquiry =>
    exact lookup_remembers remembers asked (looks_up session inquiry remembers.kept remembers.sound)

end Steps

/-- Every key of the cache is among some keys, and what a log can serve is still stored. -/
structure Complete (keys : List QuoteKey) (log : List Entry) (cache : Cache QuoteKey Quote) :
    Prop where
  keyed : ∀ slot ∈ cache.slots, slot.key ∈ keys
  holds : ∀ entry ∈ log, ∀ inquiry, entry.serves inquiry = true → cache.Holds inquiry.key

section Counts
variable {config : RouterConfig} {ledger : Ledger} {log : List Entry} {session next : Session}
variable {cache later : Cache QuoteKey Quote} {request : SwapRequest} {inquiry : Inquiry}
variable {result : Except RouterError Quote} {keys : List QuoteKey}

-- The keys of the slots and the key without a slot are different keys of the run.
theorem not_bypassed (remembers : Remembers config ledger log session cache)
    (complete : Complete keys log cache) (bounded : keys.dedup.length ≤ maxQuotes)
    (wanted : inquiry.key ∈ keys) : ¬ cache.Admits inquiry.key .lasting later .bypass := by
  intro admits
  cases admits with
  | bypass absent full =>
    have different : (inquiry.key :: cache.slots.map Slot.key).Nodup := by
      refine List.nodup_cons.mpr ⟨fun again => ?_, remembers.sound.keys⟩
      obtain ⟨slot, member, same⟩ := List.mem_map.mp again
      exact absent slot member same
    have among : inquiry.key :: cache.slots.map Slot.key ⊆ keys.dedup := by
      intro key member
      rw [List.mem_dedup]
      rcases List.mem_cons.mp member with rfl | member
      · exact wanted
      · obtain ⟨slot, held, rfl⟩ := List.mem_map.mp member
        exact complete.keyed slot held
    have counted := (different.subperm among).length_le
    have crowded : cache.capacity ≤ cache.slots.length := by
      have kept : cache.purge.slots.length ≤ cache.slots.length := List.length_filter_le _ _
      have purged : cache.purge.capacity ≤ cache.purge.size := by
        simpa only [Cache.isFull, decide_eq_true_eq] using full
      exact Nat.le_trans purged kept
    rw [List.length_cons, List.length_map] at counted
    rw [remembers.limit] at crowded
    omega

theorem computes_of_cell (remembers : Remembers config ledger log session cache)
    (complete : Complete keys log cache) (asked : request.inquiry? = .ok inquiry) {cell : Nat}
    (admits : cache.Admits inquiry.key .lasting later (.cell cell)) :
    computes log request = true := by
  rw [computes, asked]
  dsimp only
  rw [Bool.not_eq_true', List.any_eq_false]
  intro entry member serves
  obtain ⟨slot, held, named, value, filled⟩ := complete.holds entry member inquiry serves
  have hit := Cache.hit_of_admits remembers.sound admits held named (remembers.lasting slot held)
    filled
  cases hit.2

theorem computes_of_found (remembers : Remembers config ledger log session cache)
    (asked : request.inquiry? = .ok inquiry) {slot : Slot QuoteKey Quote} {quote : Quote}
    (member : slot ∈ cache.slots) (named : slot.key = inquiry.key)
    (filled : slot.value = some quote) : computes log request = false := by
  obtain ⟨earlier, question, listed, posed, same, _⟩ := remembers.stored slot member quote filled
  rw [computes, asked]
  dsimp only
  rw [Bool.not_eq_false', List.any_eq_true]
  exact ⟨_, listed, (serves_iff inquiry _).mpr ⟨question, quote, posed, rfl, same.trans named⟩⟩

theorem complete_cons (complete : Complete keys log cache) (asked : request.inquiry? = .ok inquiry)
    (served : ∀ quote, result = .ok quote → cache.Holds inquiry.key) :
    Complete keys ((request, result) :: log) cache := by
  refine ⟨complete.keyed, List.forall_mem_cons.mpr ⟨fun question serves => ?_, complete.holds⟩⟩
  obtain ⟨earlier, quote, posed, given, same⟩ := (serves_iff question _).mp serves
  cases asked.symm.trans posed
  rw [← same]
  exact served quote given

theorem complete_admitted (remembers : Remembers config ledger log session cache)
    (complete : Complete keys log cache) (wanted : inquiry.key ∈ keys) {admission : Admission Quote}
    (admits : cache.Admits inquiry.key .lasting later admission) : Complete keys log later := by
  refine ⟨fun slot member => ?_, fun entry listed question serves => ?_⟩
  · rcases Cache.mem_of_admits admits member with old | rfl
    · exact complete.keyed slot old
    · exact wanted
  · exact Cache.holds_of_admits remembers.lasting admits (complete.holds entry listed question serves)

theorem complete_filled (complete : Complete keys log cache) (cell : Nat) (quote : Quote) :
    Complete keys log (cache.fill cell quote) := by
  refine ⟨fun slot member => ?_, fun entry listed question serves => ?_⟩
  · obtain ⟨old, found, named, _⟩ := Cache.origin_of_fill member
    rw [← named]
    exact complete.keyed old found
  · exact Cache.holds_fill (complete.holds entry listed question serves) cell quote

theorem computed_reads (session : Session) (inquiry : Inquiry) :
    (session.computed inquiry).reads.pools = session.reads.pools + 1 :=
  Quote.pools_read_once session.config session.ledger inquiry session.reads

/-- While there is room, a request that is served reads nothing, and any other reads the pools once. -/
theorem lookup_completes (remembers : Remembers config ledger log session cache)
    (complete : Complete keys log cache) (bounded : keys.dedup.length ≤ maxQuotes)
    (asked : request.inquiry? = .ok inquiry) (wanted : inquiry.key ∈ keys)
    (looks : LooksUp session cache inquiry result next) (kept : next.cache = some later) :
    next.reads.pools = session.reads.pools + (computes log request).toNat ∧
      Complete keys ((request, result) :: log) later := by
  cases looks with
  | found slot quote member named filled =>
    cases remembers.kept.symm.trans kept
    rw [computes_of_found remembers asked member named filled]
    exact ⟨rfl, complete_cons complete asked fun _ _ => ⟨slot, member, named, quote, filled⟩⟩
  | stored admitted cell admits =>
    cases kept
    rw [computes_of_cell remembers complete asked admits]
    refine ⟨computed_reads session inquiry, ?_⟩
    have entered := complete_admitted remembers complete wanted admits
    cases session.answer inquiry with
    | error error =>
      refine complete_cons entered asked fun quote given => ?_
      cases given
    | ok quote =>
      exact complete_cons (complete_filled entered cell quote) asked fun _ _ =>
        Cache.fill_holds (Cache.slot_of_admits admits) quote
  | bypassed admitted admits =>
    exact (not_bypassed remembers complete bounded wanted admits).elim

theorem resolve_completes (remembers : Remembers config ledger log session cache)
    (complete : Complete keys log cache) (bounded : keys.dedup.length ≤ maxQuotes)
    (wanted : ∀ inquiry, request.inquiry? = .ok inquiry → inquiry.key ∈ keys)
    (kept : (session.resolve request).2.cache = some later) :
    (session.resolve request).2.reads.pools =
        session.reads.pools + (computes log request).toNat ∧
      Complete keys ((request, (session.resolve request).1) :: log) later := by
  rw [resolve_eq] at kept ⊢
  cases asked : request.inquiry? with
  | error error =>
    rw [asked] at kept
    cases remembers.kept.symm.trans kept
    have unread : computes log request = false := by rw [computes, asked]
    rw [unread]
    refine ⟨rfl, complete.keyed, List.forall_mem_cons.mpr ⟨fun question serves => ?_,
      complete.holds⟩⟩
    obtain ⟨_, _, _, given, _⟩ := (serves_iff question _).mp serves
    cases given
  | ok inquiry =>
    rw [asked] at kept
    exact lookup_completes remembers complete bounded asked (wanted inquiry asked)
      (looks_up session inquiry remembers.kept remembers.sound) kept

end Counts

section Runs
variable {config : RouterConfig} {ledger : Ledger} {log : List Entry} {session : Session}
variable {cache : Cache QuoteKey Quote} {keys : List QuoteKey}

theorem answers_agree (remembers : Remembers config ledger log session cache)
    (requests : List SwapRequest) :
    List.Forall₂ (fun request answer => Quote.Agrees (alone config ledger request) answer) requests
      (session.answers requests) := by
  induction requests generalizing log session cache with
  | nil => exact .nil
  | cons request rest ih =>
    obtain ⟨agrees, later, remembered⟩ := resolve_remembers remembers request
    exact .cons agrees (ih remembered)

theorem reads_counted (remembers : Remembers config ledger log session cache)
    (complete : Complete keys log cache) (bounded : keys.dedup.length ≤ maxQuotes)
    (requests : List SwapRequest) (wanted : ∀ key ∈ lookedUp requests, key ∈ keys) :
    (session.after requests).reads.pools =
      session.reads.pools + computations log (requests.zip (session.answers requests)) := by
  induction requests generalizing log session cache with
  | nil => rfl
  | cons request rest ih =>
    obtain ⟨_, later, remembered⟩ := resolve_remembers remembers request
    have known : ∀ inquiry, request.inquiry? = .ok inquiry → inquiry.key ∈ keys := by
      intro inquiry asked
      refine wanted inquiry.key (List.mem_filterMap.mpr ⟨request, List.mem_cons_self, ?_⟩)
      rw [asked]
      rfl
    have others : ∀ key ∈ lookedUp rest, key ∈ keys := by
      intro key member
      obtain ⟨other, listed, found⟩ := List.mem_filterMap.mp member
      exact wanted key (List.mem_filterMap.mpr ⟨other, List.mem_cons_of_mem _ listed, found⟩)
    obtain ⟨counted, completed⟩ :=
      resolve_completes remembers complete bounded known remembered.kept
    rw [after, ih remembered completed others, counted, answers, List.zip_cons_cons, computations]
    exact Nat.add_assoc _ _ _

theorem start_remembers (config : RouterConfig) (ledger : Ledger)
    (kept : config.routing.quoteCacheSeconds ≠ 0) :
    Remembers config ledger [] (start config ledger) (Cache.empty maxQuotes) where
  configured := rfl
  unchanged := rfl
  kept := if_neg kept
  sound := Cache.empty_sound maxQuotes
  limit := rfl
  lasting := fun _ member => nomatch member
  stored := fun _ member => nomatch member

theorem after_remembers (remembers : Remembers config ledger log session cache)
    (requests : List SwapRequest) :
    ∃ log later, Remembers config ledger log (session.after requests) later := by
  induction requests generalizing log session cache with
  | nil => exact ⟨log, cache, remembers⟩
  | cons request rest ih =>
    obtain ⟨_, later, remembered⟩ := resolve_remembers remembers request
    exact ih remembered

end Runs

/-- A session that keeps no quotes. -/
structure Forgets (config : RouterConfig) (ledger : Ledger) (session : Session) : Prop where
  configured : session.config = config
  unchanged : session.ledger = ledger
  empty : session.cache = none

section Forgetting
variable {config : RouterConfig} {ledger : Ledger} {session : Session}

theorem resolve_forgets (forgets : Forgets config ledger session) (request : SwapRequest) :
    (session.resolve request).1 = alone config ledger request ∧
      Forgets config ledger (session.resolve request).2 := by
  rw [resolve_eq, alone_eq]
  cases request.inquiry? with
  | error error => exact ⟨rfl, forgets⟩
  | ok inquiry =>
    dsimp only
    rw [lookup_uncached inquiry forgets.empty]
    refine ⟨?_, forgets.configured, forgets.unchanged, forgets.empty⟩
    rw [answer, forgets.configured, forgets.unchanged, Quote.compute_answer, Except.bind,
      Quote.compute_answer]

theorem after_forgets (forgets : Forgets config ledger session) (requests : List SwapRequest) :
    Forgets config ledger (session.after requests) := by
  induction requests generalizing session with
  | nil => exact forgets
  | cons request rest ih => exact ih (resolve_forgets forgets request).2

end Forgetting

/-- Whatever was asked before, a request is answered as if it was asked alone. -/
theorem answer_after (config : RouterConfig) (ledger : Ledger) (earlier : List SwapRequest)
    (request : SwapRequest) :
    Quote.Agrees (alone config ledger request)
      (((start config ledger).after earlier).resolve request).1 := by
  by_cases kept : config.routing.quoteCacheSeconds = 0
  · have forgets : Forgets config ledger (start config ledger) := ⟨rfl, rfl, if_pos kept⟩
    rw [(resolve_forgets (after_forgets forgets earlier) request).1]
    exact Quote.agrees_self _
  · obtain ⟨log, later, remembered⟩ := after_remembers (start_remembers config ledger kept) earlier
    exact (resolve_remembers remembered request).1

/-- A session with a cache answers every request as a router without one answers it alone. As long
as the keys that are looked up fit in the cache, the pools are read once for every request that passes
its checks and that no earlier success serves. -/
theorem cache_transparent (config : RouterConfig) (ledger : Ledger) (requests : List SwapRequest)
    (kept : config.routing.quoteCacheSeconds ≠ 0) :
    List.Forall₂ (fun request answer => Quote.Agrees (alone config ledger request) answer) requests
        ((start config ledger).answers requests) ∧
      ((lookedUp requests).dedup.length ≤ maxQuotes →
        ((start config ledger).after requests).reads.pools =
          computations [] (requests.zip ((start config ledger).answers requests))) := by
  have remembers := start_remembers config ledger kept
  refine ⟨answers_agree remembers requests, fun bounded => ?_⟩
  have complete : Complete (lookedUp requests) [] (Cache.empty maxQuotes) :=
    ⟨(fun _ member => nomatch member), (fun _ member => nomatch member)⟩
  have counted := reads_counted remembers complete bounded requests fun key member => member
  rw [counted]
  exact Nat.zero_add _

end Session

namespace Sample

theorem fifty_fits : 50 ≤ Decimal.maxMantissa := by decide

theorem two_places_fit : 2 ≤ Decimal.maxScale := by decide

/-- A request for 80 units of the native currency. -/
def request (tolerance : Decimal) : SwapRequest := ⟨usdc, native, none, some 80, tolerance⟩

/-- The tolerance 0.50. -/
def rescaled : Decimal := ⟨false, 50, 2, fifty_fits, two_places_fit⟩

end Sample

namespace Session

-- A tolerance of 0.5 and then one of 0.50: the second request finds the quote of the first.
theorem cache_transparent_rescaled :
    let requests := [Sample.request Sample.half, Sample.request Sample.rescaled]
    let session := start .default Sample.ledger
    List.Forall₂ (fun request answer => Quote.Agrees (alone .default Sample.ledger request) answer)
        requests (session.answers requests) ∧
      (session.after requests).reads.pools = 1 := by
  intro requests session
  obtain ⟨agrees, counted⟩ := cache_transparent .default Sample.ledger requests (by decide)
  refine ⟨agrees, ?_⟩
  have asked : (Sample.request Sample.half).inquiry? = .ok (Sample.inquiry ⟨.fixedOutput, 80⟩) := rfl
  have answered : (session.resolve (Sample.request Sample.half)).1 =
      .ok (Sample.quote 80 1 [1, 873, 80]) := by
    rw [resolve_eq, asked]
    exact (lookup_start ..).trans (Sample.quoted 80 1 _ rfl rfl)
  have few : (lookedUp requests).dedup.length ≤ maxQuotes :=
    Nat.le_trans (List.dedup_sublist _).length_le (by decide +kernel)
  rw [counted few]
  change (computes [] _).toNat + ((computes [(_, (session.resolve _).1)] _).toNat + 0) = 1
  rw [answered]
  rfl

end Session
end PoolRouting
