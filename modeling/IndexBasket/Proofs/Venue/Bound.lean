import IndexBasket.Proofs.Venue.Reserves

namespace IndexBasket

/-- What is within a bound is also within a looser one. -/
def SwapKind.Loosens (kind : SwapKind) (bound looser : Amount) : Prop :=
  ∀ swap, checkBound kind swap bound = .ok () → checkBound kind swap looser = .ok ()

theorem SwapKind.loosens_refl (kind : SwapKind) (bound : Amount) : kind.Loosens bound bound :=
  fun _ within => within

theorem SwapKind.loosens_exactOutput {bound looser : Amount} (le : bound ≤ looser) :
    SwapKind.exactOutput.Loosens bound looser := by
  intro swap within
  exact checkBound_eq_ok.mpr (Nat.le_trans (checkBound_eq_ok.mp within) le)

variable {order : SwapOrder} {bound looser : Amount} {fill : Fill}

/-- Pools do not see the bound that a swap has kept. -/
theorem PairRouter.execute_loosens {router after : PairRouter} (loosens : order.kind.Loosens bound looser)
    (run : execute order bound router = .ok fill after) : execute order looser router = .ok fill after := by
  obtain ⟨pool, filled, found, priced, within, exchanged, rfl⟩ := execute_eq_ok.mp run
  have looselyWithin := checkBound_eq_ok.mp (loosens fill (checkBound_eq_ok.mpr within))
  exact execute_eq_ok.mpr ⟨pool, filled, found, priced, looselyWithin, exchanged, rfl⟩

theorem SplitRouter.execute_loosens {router after : SplitRouter} (loosens : order.kind.Loosens bound looser)
    (run : execute order bound router = .ok fill after) : execute order looser router = .ok fill after := by
  obtain ⟨split, filled, planned, rfl, within, exchanged, rfl⟩ := execute_eq_ok.mp run
  have looselyWithin := checkBound_eq_ok.mp (loosens split.quote (checkBound_eq_ok.mpr within))
  exact execute_eq_ok.mpr ⟨split, filled, planned, rfl, looselyWithin, exchanged, rfl⟩

/-- Venues with the same pools or the same rates. Only in the record of a venue with
fixed rates may the bounds differ that swaps were asked for with. -/
inductive Venue.Alike : Venue → Venue → Prop
  | pair (router : PairRouter) : Alike (pair router) (pair router)
  | split (router : SplitRouter) : Alike (split router) (split router)
  | fixedRate {mode : FillMode} {rates : PairMap Amount} {swaps swaps' : List RecordedSwap}
      (orders : swaps.map (·.order) = swaps'.map (·.order)) :
      Alike (fixedRate ⟨mode, rates, swaps⟩) (fixedRate ⟨mode, rates, swaps'⟩)

namespace Venue

theorem Alike.refl (venue : Venue) : Alike venue venue := by
  cases venue with
  | pair router => exact .pair router
  | split router => exact .split router
  | fixedRate mock => exact .fixedRate rfl

theorem Alike.quote {venue venue' : Venue} (alike : Alike venue venue') :
    Venue.quote order venue' = Venue.quote order venue := by
  cases alike <;> rfl

theorem Alike.execute {venue venue' after : Venue} (alike : Alike venue venue')
    (loosens : order.kind.Loosens bound looser) (run : Venue.execute order bound venue = .ok fill after) :
    ∃ after', Venue.execute order looser venue' = .ok fill after' ∧ Alike after after' := by
  cases alike with
  | pair router =>
    simp only [Venue.execute, Action.within_eq_ok] at run ⊢
    obtain ⟨filled, swapped, rfl⟩ := run
    exact ⟨_, ⟨filled, PairRouter.execute_loosens loosens swapped, rfl⟩, .refl _⟩
  | split router =>
    simp only [Venue.execute, Action.within_eq_ok] at run ⊢
    obtain ⟨filled, swapped, rfl⟩ := run
    exact ⟨_, ⟨filled, SplitRouter.execute_loosens loosens swapped, rfl⟩, .refl _⟩
  | fixedRate orders =>
    simp only [Venue.execute, Action.within_eq_ok, FixedRateVenue.execute_eq_ok] at run ⊢
    obtain ⟨_, ⟨quoted, priced, filled, within, rfl⟩, rfl⟩ := run
    refine ⟨_, ⟨_, ⟨quoted, priced, filled, loosens fill within, rfl⟩, rfl⟩, .fixedRate ?_⟩
    rw [List.map_append, List.map_append, orders]
    rfl

end Venue

namespace Venues

/-- Venues that are alike on every exchange. -/
def Alike (venues venues' : Venues) : Prop :=
  ∀ exchange : Exchange, Option.Rel Venue.Alike venues.byExchange[exchange]? venues'.byExchange[exchange]?

variable {venues venues' after : Venues} {exchange : Exchange} {venue : Venue}

theorem Alike.refl (venues : Venues) : Alike venues venues := by
  intro exchange
  cases venues.byExchange[exchange]? with
  | none => exact .none
  | some venue => exact .some (.refl venue)

theorem Alike.getElem?_eq_some (alike : Alike venues venues') (found : venues.byExchange[exchange]? = some venue) :
    ∃ venue', venues'.byExchange[exchange]? = some venue' ∧ Venue.Alike venue venue' := by
  have both := alike exchange
  rw [found] at both
  generalize venues'.byExchange[exchange]? = found' at both ⊢
  cases both with
  | some same => exact ⟨_, rfl, same⟩

/-- Of venues that are alike, those with pools are the same. -/
theorem Alike.pooled (alike : Alike venues venues') (pooled : venue.Pooled) :
    venues.byExchange[exchange]? = some venue ↔ venues'.byExchange[exchange]? = some venue := by
  have both := alike exchange
  generalize venues.byExchange[exchange]? = found at both ⊢
  generalize venues'.byExchange[exchange]? = found' at both ⊢
  cases both with
  | none => exact Iff.rfl
  | some same =>
    rw [Option.some.injEq, Option.some.injEq]
    cases same with
    | pair router => exact Iff.rfl
    | split router => exact Iff.rfl
    | fixedRate orders =>
      constructor
      · rintro rfl
        exact pooled.elim
      · rintro rfl
        exact pooled.elim

theorem Alike.quote (alike : Alike venues venues') (exchange : Exchange) (order : SwapOrder) :
    (venues'.find exchange).bind (Venue.quote order) = (venues.find exchange).bind (Venue.quote order) := by
  have both := alike exchange
  unfold find
  generalize venues.byExchange[exchange]? = found at both ⊢
  generalize venues'.byExchange[exchange]? = found' at both ⊢
  cases both with
  | none => rfl
  | some same => exact same.quote

/-- A looser bound lets the same swap through on venues that are alike, and leaves
them alike. -/
theorem Alike.execute (alike : Alike venues venues') (loosens : order.kind.Loosens bound looser)
    (run : Venues.execute exchange order bound venues = .ok fill after) :
    ∃ after', Venues.execute exchange order looser venues' = .ok fill after' ∧ Alike after after' := by
  obtain ⟨venue, filled, found, swapped, rfl⟩ := execute_eq_ok.mp run
  obtain ⟨venue', found', same⟩ := alike.getElem?_eq_some found
  obtain ⟨filled', swapped', same'⟩ := same.execute loosens swapped
  refine ⟨_, execute_eq_ok.mpr ⟨venue', filled', found', swapped', rfl⟩, fun other => ?_⟩
  rw [Std.ExtTreeMap.getElem?_insert, Std.ExtTreeMap.getElem?_insert]
  split
  · exact .some same'
  · exact alike other

end Venues

end IndexBasket
