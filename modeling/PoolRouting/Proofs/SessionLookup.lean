import PoolRouting.Proofs.CacheSlots
import PoolRouting.Proofs.QuoteChoice
import PoolRouting.Session

/-!
What one request does to a session. A request that passes its checks either finds a stored quote or
computes one; what it computes may be stored or not. So every quote that a session gives was computed
for a checked question, at this request or at an earlier one.
-/

namespace PoolRouting

/-- The question of a request that passes its checks. -/
def SwapRequest.inquiry? (request : SwapRequest) : Except RouterError Inquiry :=
  (Inquiry.ofRequest request).bind fun inquiry => inquiry.check.map fun _ => inquiry

theorem check_of_inquiry {request : SwapRequest} {inquiry : Inquiry}
    (asked : request.inquiry? = .ok inquiry) : inquiry.check = .ok () := by
  obtain ⟨question, _, checked⟩ := (bind_ok_iff ..).mp asked
  obtain ⟨passed, kept, rfl⟩ := (map_ok_iff ..).mp checked
  exact kept

theorem inquiry_check_ok_iff (inquiry : Inquiry) :
    inquiry.check = .ok () ↔
      (∀ direction, inquiry.direction = some direction → 0 < direction.amount) ∧
        validTolerance inquiry.tolerance = true := by
  rw [Inquiry.check, check_ok_iff, validateTolerance]
  refine and_congr ?_ (by split <;> simp_all)
  cases inquiry.direction with
  | none => simp
  | some direction =>
    by_cases nothing : direction.amount = 0
    · simp [SwapDirection.validate, nothing]
    · simp [SwapDirection.validate, nothing, Nat.pos_of_ne_zero nothing]

theorem valid_of_inquiry {request : SwapRequest} {inquiry : Inquiry}
    (asked : request.inquiry? = .ok inquiry) : validTolerance inquiry.tolerance = true :=
  ((inquiry_check_ok_iff inquiry).mp (check_of_inquiry asked)).2

namespace Session

/-- The session once a question has been computed. -/
def computed (session : Session) (inquiry : Inquiry) : Session :=
  { session with
    reads := (Quote.compute session.config session.ledger inquiry).readsAfter session.reads }

/-- What a question is answered when it is computed. -/
def answer (session : Session) (inquiry : Inquiry) : Except RouterError Quote :=
  (Quote.compute session.config session.ledger inquiry).answer session.reads

theorem compute_eq (session : Session) (inquiry : Inquiry) :
    session.compute inquiry = (session.answer inquiry, session.computed inquiry) := rfl

theorem resolve_eq (session : Session) (request : SwapRequest) :
    session.resolve request =
      match request.inquiry? with
      | .error error => (.error error, session)
      | .ok inquiry => session.lookup inquiry := by
  unfold resolve SwapRequest.inquiry?
  cases Inquiry.ofRequest request with
  | error error => rfl
  | ok inquiry =>
    simp only [quote, Except.bind]
    cases inquiry.check <;> rfl

inductive LooksUp (session : Session) (cache : Cache QuoteKey Quote) (inquiry : Inquiry) :
    Except RouterError Quote → Session → Prop where
  | found (slot : Slot QuoteKey Quote) (quote : Quote) (member : slot ∈ cache.slots)
      (named : slot.key = inquiry.key) (filled : slot.value = some quote) :
      LooksUp session cache inquiry (.ok quote) session
  | stored (later : Cache QuoteKey Quote) (cell : Nat)
      (admits : cache.Admits inquiry.key .lasting later (.cell cell)) :
      LooksUp session cache inquiry (session.answer inquiry)
        { session.computed inquiry with
          cache := some (later.settle cell (session.answer inquiry)) }
  | bypassed (later : Cache QuoteKey Quote)
      (admits : cache.Admits inquiry.key .lasting later .bypass) :
      LooksUp session cache inquiry (session.answer inquiry)
        { session.computed inquiry with cache := some later }

theorem looks_up (session : Session) (inquiry : Inquiry) {cache : Cache QuoteKey Quote}
    (kept : session.cache = some cache) (sound : cache.Sound) :
    LooksUp session cache inquiry (session.lookup inquiry).1 (session.lookup inquiry).2 := by
  have admits := Cache.request_admits sound inquiry.key .lasting
  rw [lookup, kept]
  dsimp only
  revert admits
  generalize cache.request inquiry.key .lasting = requested
  obtain ⟨later, admission⟩ := requested
  intro admits
  cases admits with
  | hit slot quote member named lasting filled =>
    have same : { session with cache := some later } = session := by rw [← kept]
    dsimp only
    rw [same]
    exact .found slot quote member named filled
  | join slot member named lasting unfilled =>
    exact .stored later slot.cell (.join slot member named lasting unfilled)
  | enter remaining sublist lasts absent room =>
    exact .stored _ _ (.enter remaining sublist lasts absent room)
  | bypass absent full => exact .bypassed _ (.bypass absent full)

theorem lookup_uncached {session : Session} (inquiry : Inquiry) (absent : session.cache = none) :
    session.lookup inquiry = (session.answer inquiry, session.computed inquiry) := by
  rw [lookup, absent]
  exact compute_eq session inquiry

theorem cache_of_start {config : RouterConfig} {ledger : Ledger} {cache : Cache QuoteKey Quote}
    (kept : (start config ledger).cache = some cache) : cache = Cache.empty maxQuotes := by
  simp only [start] at kept
  split at kept
  · cases kept
  · exact (Option.some.inj kept).symm

/-- The first question of a session is computed, whether quotes are kept or not. -/
theorem lookup_start (config : RouterConfig) (ledger : Ledger) (inquiry : Inquiry) :
    ((start config ledger).lookup inquiry).1 =
      (Quote.compute config ledger inquiry).answer Reads.zero := by
  cases kept : (start config ledger).cache with
  | none =>
    rw [lookup_uncached inquiry kept]
    rfl
  | some cache =>
    have fresh := cache_of_start kept
    have looks := looks_up (start config ledger) inquiry kept (fresh ▸ Cache.empty_sound maxQuotes)
    generalize (start config ledger).lookup inquiry = outcome at looks
    obtain ⟨result, next⟩ := outcome
    cases looks with
    | found slot quote member named filled =>
      rw [fresh] at member
      cases member
    | stored later cell admits => rfl
    | bypassed later admits => rfl

/-- The first request of a session is answered from its question alone. -/
theorem resolve_start (config : RouterConfig) (ledger : Ledger) (request : SwapRequest) :
    ((start config ledger).resolve request).1 =
      request.inquiry?.bind fun inquiry =>
        (Quote.compute config ledger inquiry).answer Reads.zero := by
  rw [resolve_eq]
  cases request.inquiry? with
  | error error => rfl
  | ok inquiry => exact lookup_start config ledger inquiry

/-- What a router lives through: requests, and changes of the ledger behind it. -/
inductive Reached (config : RouterConfig) : Session → Prop where
  | start (ledger : Ledger) : Reached config (.start config ledger)
  | change {session : Session} (before : Reached config session) (ledger : Ledger) :
      Reached config { session with ledger := ledger }
  | resolve {session : Session} (before : Reached config session) (request : SwapRequest) :
      Reached config (session.resolve request).2

/-- Computed for a checked question from some state of the ledger. -/
def Issued (config : RouterConfig) (quote : Quote) : Prop :=
  ∃ ledger inquiry reads, inquiry.check = .ok () ∧
    (Quote.compute config ledger inquiry).answer reads = .ok quote

/-- The cache holds nothing but issued quotes. -/
structure Trusted (config : RouterConfig) (session : Session) : Prop where
  configured : session.config = config
  sound : ∀ cache, session.cache = some cache → cache.Sound
  issued : ∀ cache, session.cache = some cache → cache.Stores fun _ quote => Issued config quote

variable {config : RouterConfig} {session : Session}

theorem start_trusted (config : RouterConfig) (ledger : Ledger) :
    Trusted config (.start config ledger) := by
  refine ⟨rfl, fun cache kept => ?_, fun cache kept slot member => ?_⟩
  · exact cache_of_start kept ▸ Cache.empty_sound maxQuotes
  · rw [cache_of_start kept] at member
    cases member

theorem lookup_trusted (trusted : Trusted config session) {inquiry : Inquiry}
    (checked : inquiry.check = .ok ()) :
    Trusted config (session.lookup inquiry).2 ∧
      ∀ quote, (session.lookup inquiry).1 = .ok quote → Issued config quote := by
  have issues : ∀ quote, session.answer inquiry = .ok quote → Issued config quote := by
    intro quote given
    rw [answer, trusted.configured] at given
    exact ⟨session.ledger, inquiry, session.reads, checked, given⟩
  cases kept : session.cache with
  | none =>
    rw [lookup_uncached inquiry kept]
    exact ⟨⟨trusted.configured, trusted.sound, trusted.issued⟩, issues⟩
  | some cache =>
    have sound := trusted.sound cache kept
    have stores := trusted.issued cache kept
    have looks := looks_up session inquiry kept sound
    generalize session.lookup inquiry = outcome at looks ⊢
    obtain ⟨result, next⟩ := outcome
    cases looks with
    | found slot quote member named filled =>
      refine ⟨trusted, fun other given => ?_⟩
      cases given
      exact stores slot member quote filled
    | stored later cell admits =>
      have entered := Cache.sound_of_admits sound admits
      refine ⟨⟨trusted.configured, ?_, ?_⟩, issues⟩
      · rintro _ ⟨⟩
        exact Cache.settle_sound entered cell _
      · rintro _ ⟨⟩
        exact Cache.settle_stores entered (Cache.stores_of_admits stores admits)
          (Cache.slot_of_admits admits) _ issues
    | bypassed later admits =>
      refine ⟨⟨trusted.configured, ?_, ?_⟩, issues⟩
      · rintro _ ⟨⟩
        exact Cache.sound_of_admits sound admits
      · rintro _ ⟨⟩
        exact Cache.stores_of_admits stores admits

theorem resolve_trusted (trusted : Trusted config session) (request : SwapRequest) :
    Trusted config (session.resolve request).2 ∧
      ∀ quote, (session.resolve request).1 = .ok quote → Issued config quote := by
  rw [resolve_eq]
  cases asked : request.inquiry? with
  | error error =>
    refine ⟨trusted, fun quote given => ?_⟩
    cases given
  | ok inquiry => exact lookup_trusted trusted (check_of_inquiry asked)

theorem reached_trusted (reached : Reached config session) : Trusted config session := by
  induction reached with
  | start ledger => exact start_trusted config ledger
  | change before ledger ih => exact ⟨ih.configured, ih.sound, ih.issued⟩
  | resolve before request ih => exact (resolve_trusted ih request).1

end Session
end PoolRouting
