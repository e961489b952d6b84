import PoolRouting.Proofs.DecimalValue
import PoolRouting.Proofs.MarketMatching

/-!
Pools that charge another fee. The fee leaves no trace in the shape of a market: the same tokens are
named and traded, and the same routes are admitted. A lower fee helps every trade: whatever a sale
released before it still releases, so on each route all amounts move in the favour of the trader.
-/

namespace PoolRouting

/-- The same record at another fee. -/
def Pool.charging (pool : Pool) (fee : Decimal) : Pool := { pool with feeFraction := fee }

theorem Pool.resembles_charging (pool : Pool) (fee : Decimal) :
    pool.Resembles (pool.charging fee) :=
  ⟨rfl, fun _ => rfl, rfl⟩

/-- Pool by pool the same records, with fees that are related. -/
def Recharged (relation : Decimal → Decimal → Prop) : List Pool → List Pool → Prop :=
  List.Forall₂ fun pool other => ∃ fee, relation pool.feeFraction fee ∧ other = pool.charging fee

section Recharged
variable {relation : Decimal → Decimal → Prop} {left right : List Pool}

theorem recharged_resembling (recharged : Recharged relation left right) :
    Resembling left right := by
  apply recharged.imp
  rintro pool _ ⟨fee, _, rfl⟩
  exact pool.resembles_charging fee

theorem recharged_back (recharged : Recharged relation left right) :
    Recharged (flip relation) right left := by
  induction recharged with
  | nil => exact .nil
  | @cons pool other left right changed _ ih =>
    obtain ⟨fee, related, rfl⟩ := changed
    exact .cons ⟨pool.feeFraction, related, rfl⟩ ih

theorem names_of_recharged (recharged : Recharged relation left right) (token : TokenId)
    (named : Names left token) : Names right token := by
  obtain ⟨pool, listed, holds⟩ := named
  obtain ⟨_, found, fee, _, rfl⟩ := partner_of_paired recharged pool listed
  exact ⟨_, found, holds⟩

theorem routable_of_recharged (recharged : Recharged relation left right) (token : TokenId)
    (routable : (LiquidityGraph.ofTrusted left).isRoutable token = true) :
    (LiquidityGraph.ofTrusted right).isRoutable token = true := by
  rw [LiquidityGraph.is_routable_iff] at routable ⊢
  obtain ⟨pool, listed, usable, trades⟩ := routable
  obtain ⟨_, found, fee, _, rfl⟩ := partner_of_paired recharged pool listed
  exact ⟨_, found, usable, trades⟩

theorem names_recharged (recharged : Recharged relation left right) (token : TokenId) :
    Names left token ↔ Names right token :=
  ⟨names_of_recharged recharged token, names_of_recharged (recharged_back recharged) token⟩

theorem routable_recharged (recharged : Recharged relation left right) (token : TokenId) :
    (LiquidityGraph.ofTrusted left).isRoutable token =
      (LiquidityGraph.ofTrusted right).isRoutable token :=
  Bool.eq_iff_iff.mpr ⟨routable_of_recharged recharged token,
    routable_of_recharged (recharged_back recharged) token⟩

theorem trusted_recharged (recharged : Recharged relation left right)
    (charged : ∀ fee other, relation fee other →
      (FeeRatio.ofDecimal? fee).isSome = true → (FeeRatio.ofDecimal? other).isSome = true)
    (trusted : firstFault? [] left = none) : firstFault? [] right = none := by
  obtain ⟨_, distinct, sound⟩ := (first_fault_none_iff [] left).mp trusted
  have addresses := addresses_resembling (recharged_resembling recharged)
  refine (first_fault_none_iff [] right).mpr ⟨by simp, addresses ▸ distinct, ?_⟩
  intro other listed
  obtain ⟨_, found, fee, related, rfl⟩ := partner_of_paired (recharged_back recharged) other listed
  obtain ⟨apart, taken, supplied⟩ := (pool_fault_none_iff _).mp (sound _ found)
  exact (pool_fault_none_iff other).mpr ⟨apart, charged fee _ related taken, supplied⟩

theorem accepted_recharged {first : LiquidityGraph} (recharged : Recharged relation left right)
    (charged : ∀ fee other, relation fee other →
      (FeeRatio.ofDecimal? fee).isSome = true → (FeeRatio.ofDecimal? other).isSome = true)
    (accepted : LiquidityGraph.ofPools left = .ok first) :
    LiquidityGraph.ofPools right = .ok (LiquidityGraph.ofTrusted right) := by
  have trusted := ((LiquidityGraph.of_pools_ok_iff ..).mp accepted).1
  exact (LiquidityGraph.of_pools_ok_iff ..).mpr ⟨trusted_recharged recharged charged trusted, rfl⟩

theorem admissible_recharged {source target : TokenId} {maxHops : Nat} {route : Route}
    (recharged : Recharged relation left right)
    (admissible : route.Admissible left source target maxHops) :
    ∃ pools, Recharged relation route.pools pools ∧
      (route.through pools).Admissible right source target maxHops := by
  obtain ⟨pools, changed, kept⟩ : ∃ pools, Recharged relation route.pools pools ∧
      ∀ pool ∈ pools, pool ∈ right ∧ pool.usable = true := by
    apply paired_of_members
    intro pool member
    obtain ⟨listed, usable⟩ := usable_of_admissible admissible pool member
    obtain ⟨_, found, fee, related, rfl⟩ := partner_of_paired recharged pool listed
    exact ⟨_, ⟨fee, related, rfl⟩, found, usable⟩
  exact ⟨pools, changed, admissible_through admissible (recharged_resembling changed) kept⟩

end Recharged

/-- A fee that is not below nothing and of at most the same value as another. -/
structure Decimal.Undercuts (lower fee : Decimal) : Prop where
  nonnegative : 0 ≤ lower.signed
  within : (Decimal.order lower fee).isLE = true

/-- Of one input the second fee leaves at least as much as the first. -/
def FeeRatio.Spares (lower fee : FeeRatio) : Prop :=
  0 < lower.denominator ∧ fee.keep * lower.denominator ≤ lower.keep * fee.denominator

theorem spares_of_undercuts {lower fee : Decimal} {ratio : FeeRatio}
    (undercuts : lower.Undercuts fee) (taken : FeeRatio.ofDecimal? fee = some ratio) :
    ∃ other, FeeRatio.ofDecimal? lower = some other ∧ other.Spares ratio := by
  obtain ⟨nonnegative, below, rfl⟩ := (fee_ratio_iff fee ratio).mp taken
  have crossed : lower.mantissa * placeValue fee.scale ≤ fee.mantissa * placeValue lower.scale := by
    have within := undercuts.within
    rw [Decimal.order, Std.isLE_compare, signed_of_nonnegative undercuts.nonnegative,
      signed_of_nonnegative nonnegative] at within
    exact_mod_cast within
  have fits : lower.mantissa < placeValue lower.scale := by
    apply Nat.lt_of_mul_lt_mul_right (a := placeValue fee.scale)
    calc lower.mantissa * placeValue fee.scale
        ≤ fee.mantissa * placeValue lower.scale := crossed
      _ < placeValue fee.scale * placeValue lower.scale :=
          Nat.mul_lt_mul_of_pos_right below (place_value_pos _)
      _ = placeValue lower.scale * placeValue fee.scale := Nat.mul_comm _ _
  refine ⟨_, (fee_ratio_iff lower _).mpr ⟨undercuts.nonnegative, fits, rfl⟩, place_value_pos _, ?_⟩
  rw [Nat.sub_mul, Nat.sub_mul, Nat.mul_comm (placeValue fee.scale)]
  exact Nat.sub_le_sub_left crossed _

theorem charged_undercut (fee lower : Decimal) (undercuts : lower.Undercuts fee)
    (charged : (FeeRatio.ofDecimal? fee).isSome = true) :
    (FeeRatio.ofDecimal? lower).isSome = true := by
  obtain ⟨ratio, taken⟩ := Option.isSome_iff_exists.mp charged
  obtain ⟨other, lowered, _⟩ := spares_of_undercuts undercuts taken
  exact Option.isSome_iff_exists.mpr ⟨other, lowered⟩

theorem Hop.releases_of_spares {reserves : Reserves} {fee lower : FeeRatio}
    {sold more wanted fewer : Amount} (spares : lower.Spares fee) (scaled : 0 < fee.denominator)
    (paid : sold ≤ more) (asked : fewer ≤ wanted) (released : Releases reserves fee sold wanted) :
    Releases reserves lower more fewer := by
  obtain ⟨filled, within, covered⟩ := released
  refine ⟨filled, Nat.lt_of_le_of_lt asked within, ?_⟩
  have left : reserves.output - wanted ≤ reserves.output - fewer := Nat.sub_le_sub_left asked _
  apply Nat.le_of_mul_le_mul_right _ scaled
  calc reserves.input * fewer * lower.denominator * fee.denominator
      ≤ reserves.input * wanted * lower.denominator * fee.denominator := by gcongr
    _ = reserves.input * wanted * fee.denominator * lower.denominator := by ring
    _ ≤ sold * ((reserves.output - wanted) * fee.keep) * lower.denominator := by gcongr
    _ = sold * (reserves.output - wanted) * (fee.keep * lower.denominator) := by ring
    _ ≤ more * (reserves.output - fewer) * (lower.keep * fee.denominator) :=
        Nat.mul_le_mul (Nat.mul_le_mul paid left) spares.2
    _ = more * ((reserves.output - fewer) * lower.keep) * fee.denominator := by ring

section Trades
variable {pool : Pool} {token : TokenId} {lower : Decimal}

theorem sell_undercut (undercuts : lower.Undercuts pool.feeFraction) {sold more bought : Amount}
    (paid : sold ≤ more) (sells : pool.sell token sold = .ok bought) :
    ∃ brought, (pool.charging lower).sell token more = .ok brought ∧ bought ≤ brought := by
  obtain ⟨⟨reserves, fee, held, taken, computed⟩, kept⟩ := (Pool.sell_ok_iff ..).mp sells
  have positive := Nat.pos_of_ne_zero kept
  obtain ⟨other, lowered, spares⟩ := spares_of_undercuts undercuts taken
  have released :=
    (Hop.output_covers_iff reserves fee sold bought (denominator_pos taken) positive).mp
      ⟨bought, computed, Nat.le_refl _⟩
  obtain ⟨brought, found, covered⟩ :=
    (Hop.output_covers_iff reserves other more bought spares.1 positive).mpr
      (Hop.releases_of_spares spares (denominator_pos taken) paid (Nat.le_refl _) released)
  have nonzero := Nat.ne_of_gt (Nat.lt_of_lt_of_le positive covered)
  exact ⟨brought, (Pool.sell_ok_iff ..).mpr ⟨⟨reserves, other, held, lowered, found⟩, nonzero⟩,
    covered⟩

theorem buy_undercut (undercuts : lower.Undercuts pool.feeFraction) {wanted fewer needed : Amount}
    (asked : fewer ≤ wanted) (buys : pool.buy token wanted = .ok needed) :
    ∃ cost, (pool.charging lower).buy token fewer = .ok cost ∧ cost ≤ needed := by
  obtain ⟨reserves, fee, held, taken, computed⟩ := (Pool.buy_ok_iff ..).mp buys
  obtain ⟨other, lowered, spares⟩ := spares_of_undercuts undercuts taken
  have released := (Hop.input_covers_iff reserves fee needed wanted (denominator_pos taken)).mp
    ⟨needed, computed, Nat.le_refl _⟩
  obtain ⟨cost, found, within⟩ :=
    (Hop.input_covers_iff reserves other needed fewer spares.1).mpr
      (Hop.releases_of_spares spares (denominator_pos taken) (Nat.le_refl _) asked released)
  exact ⟨cost, (Pool.buy_ok_iff ..).mpr ⟨reserves, other, held, lowered, found⟩, within⟩

end Trades

/-- Pool by pool the same records, none of them at a higher fee. -/
abbrev Undercut : List Pool → List Pool → Prop := Recharged fun fee lower => lower.Undercuts fee

namespace Route
variable {pools others : List Pool}

-- The first hop brings at least as much as before, so the hops behind it are entered with more.
theorem forward_undercut (undercut : Undercut pools others) (tokens : List TokenId)
    {sold more : Amount} (paid : sold ≤ more) {outputs : List Amount}
    (found : forward sold (tokens.zip pools) = .ok outputs) :
    ∃ brought, forward more (tokens.zip others) = .ok brought ∧
      List.Forall₂ (· ≤ ·) outputs brought := by
  induction undercut generalizing tokens sold more outputs with
  | nil =>
    rw [List.zip_nil_right] at found ⊢
    cases found
    exact ⟨[], rfl, .nil⟩
  | @cons pool other pools others changed _ ih =>
    obtain ⟨lower, undercuts, rfl⟩ := changed
    cases tokens with
    | nil =>
      cases found
      exact ⟨[], rfl, .nil⟩
    | cons token tokens =>
      obtain ⟨bought, after, sells, goes, rfl⟩ := (forward_cons_iff ..).mp found
      obtain ⟨brought, sold, covered⟩ := sell_undercut undercuts paid sells
      obtain ⟨rest, follows, ahead⟩ := ih tokens covered goes
      exact ⟨brought :: rest, (forward_cons_iff ..).mpr ⟨brought, rest, sold, follows, rfl⟩,
        .cons covered ahead⟩

-- The hops behind the first ask it for no more than before.
theorem backward_undercut (undercut : Undercut pools others) (tokens : List TokenId)
    {wanted first : Amount} {later : List Amount}
    (found : backward wanted (tokens.zip pools) = .ok (first, later)) :
    ∃ cost rest, backward wanted (tokens.zip others) = .ok (cost, rest) ∧
      List.Forall₂ (· ≤ ·) (cost :: rest) (first :: later) := by
  induction undercut generalizing tokens first later with
  | nil =>
    rw [List.zip_nil_right] at found ⊢
    cases found
    exact ⟨wanted, [], rfl, .cons (Nat.le_refl _) .nil⟩
  | @cons pool other pools others changed _ ih =>
    obtain ⟨lower, undercuts, rfl⟩ := changed
    cases tokens with
    | nil =>
      cases found
      exact ⟨wanted, [], rfl, .cons (Nat.le_refl _) .nil⟩
    | cons token tokens =>
      obtain ⟨needed, after, tail, buys, rfl⟩ := (backward_cons_iff ..).mp found
      obtain ⟨asked, rest, goes, ahead⟩ := ih tokens tail
      cases ahead with
      | cons fewer others =>
        obtain ⟨cost, bought, within⟩ := buy_undercut undercuts fewer buys
        exact ⟨cost, asked :: rest,
          (backward_cons_iff ..).mpr ⟨asked, rest, goes, bought, rfl⟩,
          .cons within (.cons fewer others)⟩

end Route

namespace SimulatedRoute

/-- Amount by amount in the favour of the trader: more comes out, or less goes in. -/
def Eased (type : SwapType) (simulated eased : SimulatedRoute) : Prop :=
  match type with
  | .fixedInput => List.Forall₂ (· ≤ ·) simulated.amounts eased.amounts
  | .fixedOutput => List.Forall₂ (· ≤ ·) eased.amounts simulated.amounts

end SimulatedRoute

theorem simulate_undercut {route : Route} {pools : List Pool}
    (undercut : Undercut route.pools pools) {direction : SwapDirection} {simulated : SimulatedRoute}
    (found : route.simulate direction = .ok simulated) :
    ∃ eased, (route.through pools).simulate direction = .ok eased ∧
      simulated.Eased direction.type eased := by
  have resembling := recharged_resembling undercut
  obtain ⟨type, amount⟩ := direction
  cases type with
  | fixedInput =>
    obtain ⟨shaped, active, outputs, goes, rfl⟩ := (Route.simulate_input_iff ..).mp found
    obtain ⟨brought, follows, ahead⟩ :=
      Route.forward_undercut undercut route.tokens (Nat.le_refl amount) goes
    refine ⟨_, (Route.simulate_input_iff ..).mpr ⟨?_, ?_, brought, follows, rfl⟩, ?_⟩
    · exact (validate_through resembling).trans shaped
    · exact (check_active_through resembling).trans active
    · exact .cons (Nat.le_refl _) ahead
  | fixedOutput =>
    obtain ⟨shaped, active, first, later, goes, rfl⟩ := (Route.simulate_output_iff ..).mp found
    obtain ⟨cost, rest, follows, within⟩ :=
      Route.backward_undercut undercut route.tokens goes
    refine ⟨_, (Route.simulate_output_iff ..).mpr ⟨?_, ?_, cost, rest, follows, rfl⟩, within⟩
    · exact (validate_through resembling).trans shaped
    · exact (check_active_through resembling).trans active

end PoolRouting
