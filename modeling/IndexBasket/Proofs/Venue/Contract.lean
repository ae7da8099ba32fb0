import IndexBasket.Proofs.Venue.Product

namespace IndexBasket

open IndexBasket.Action

/-- A fill that keeps to its order: the side that is given is exact, and the open one
is within the bound. -/
def SwapOrder.Honoured (order : SwapOrder) (bound : Amount) (fill : Fill) : Prop :=
  match order.kind with
  | .exactInput => fill.amountIn = order.amount ∧ bound ≤ fill.amountOut
  | .exactOutput => fill.amountOut = order.amount ∧ fill.amountIn ≤ bound

variable {order : SwapOrder} {bound : Amount} {fill : Fill}

theorem SwapOrder.honoured_iff :
    order.Honoured bound fill ↔ order.fixedSide fill = order.amount ∧ order.kind.Accepts bound fill := by
  unfold Honoured fixedSide SwapKind.Accepts
  cases order.kind <;> exact Iff.rfl

theorem Venue.execute_accepts {venue after : Venue} (run : execute order bound venue = .ok fill after) :
    order.kind.Accepts bound fill := by
  rcases execute_eq_ok run with ⟨_, _, _, _, swapped⟩ | ⟨_, _, _, _, swapped⟩ | ⟨_, _, _, _, swapped⟩
  · obtain ⟨_, _, _, _, within, _⟩ := PairRouter.execute_eq_ok.mp swapped
    exact within
  · obtain ⟨_, _, _, _, within, _⟩ := SplitRouter.execute_eq_ok.mp swapped
    exact within
  · obtain ⟨_, _, _, within, _⟩ := FixedRateVenue.execute_eq_ok.mp swapped
    exact checkBound_eq_ok.mp within

/-- Whatever comes of a swap on a venue with fixed rates, its record is all that it
leaves there. -/
theorem FixedRateVenue.final_execute (order : SwapOrder) (bound : Amount) (venue : FixedRateVenue) :
    (execute order bound).final venue = { venue with swaps := venue.swaps ++ [⟨order, bound⟩] } := by
  rw [execute, final_modify_bind]
  refine Eq.symm ((moves_bind moves_get fun venue => moves_bind (moves_lift _) fun quoted => ?_ : Moves Eq _) _)
  split
  · exact moves_bind (moves_throw _) fun _ => moves_bind (moves_lift _) fun _ => moves_pure _
  · exact moves_bind (moves_pure _) fun _ => moves_bind (moves_lift _) fun _ => moves_pure _
  · exact moves_bind (moves_lift _) fun _ => moves_bind (moves_lift _) fun _ => moves_pure _

/-- A venue after it has refused a swap. Only a venue with fixed rates keeps a record
of what it was asked for. -/
def Venue.refusing (order : SwapOrder) (bound : Amount) : Venue → Venue
  | pair router => pair router
  | split router => split router
  | fixedRate venue => fixedRate { venue with swaps := venue.swaps ++ [⟨order, bound⟩] }

theorem Venue.execute_refused {venue after : Venue} {failure : VenueError}
    (stopped : execute order bound venue = .error failure after) : after = venue.refusing order bound := by
  cases venue with
  | pair router =>
    simp only [execute, within_eq_error] at stopped
    obtain ⟨_, left, refused, _, rfl⟩ := stopped
    exact congrArg pair (PairRouter.failsInPlace_execute order bound refused)
  | split router =>
    simp only [execute, within_eq_error] at stopped
    obtain ⟨_, left, refused, _, rfl⟩ := stopped
    exact congrArg split (SplitRouter.failsInPlace_execute order bound refused)
  | fixedRate mock =>
    simp only [execute, within_eq_error] at stopped
    obtain ⟨_, left, refused, _, rfl⟩ := stopped
    exact congrArg fixedRate ((final_of_error refused).symm.trans (FixedRateVenue.final_execute order bound mock))

/-- Whatever the venue and its state: a swap that goes through keeps to its order, and
one that is refused leaves no trace but the record of a venue with fixed rates. -/
theorem Venue.execute_contract (venue : Venue) (order : SwapOrder) (bound : Amount) :
    (∀ fill after, execute order bound venue = .ok fill after → order.Honoured bound fill) ∧
    ∀ failure after, execute order bound venue = .error failure after → after = venue.refusing order bound := by
  refine ⟨fun fill after run => ?_, fun failure after stopped => execute_refused stopped⟩
  exact SwapOrder.honoured_iff.mpr ⟨execute_fixedSide run, execute_accepts run⟩

/-- A sale that two pools share, and one for which a venue slips below the bound. -/
theorem Venue.execute_contract_sale :
    let dai : Address := ⟨"dai", by decide, by decide⟩
    let weth : Address := ⟨"weth", by decide, by decide⟩
    let sale : SwapOrder := ⟨dai, weth, Amount.ofNat 1000, .exactInput⟩
    let shared := split ⟨(∅ : PairMap (List Pool)).insert (.unordered dai weth)
      [Pool.create dai (Amount.ofNat 9000) weth (Amount.ofNat 9000) 30,
        Pool.create weth (Amount.ofNat 5000) dai (Amount.ofNat 5000) 100]⟩
    let rates := (∅ : PairMap Amount).insert ⟨dai, weth⟩ Amount.one
    (∃ fill after, execute sale (Amount.ofNat 900) shared = .ok fill after ∧ fill.amountIn = Amount.ofNat 1000 ∧
      Amount.ofNat 900 ≤ fill.amountOut) ∧
    ∃ failure after, execute sale (Amount.ofNat 995) (fixedRate ⟨.slipped 100, rates, []⟩) = .error failure after ∧
      after = fixedRate ⟨.slipped 100, rates, [⟨sale, Amount.ofNat 995⟩]⟩ := by
  intro dai weth sale shared rates
  constructor
  · have filled : (execute sale (Amount.ofNat 900)).succeeds (fun _ _ => true) shared = true := by decide +kernel
    obtain ⟨fill, after, run, _⟩ := succeeds_iff.mp filled
    obtain ⟨given, within⟩ := (execute_contract shared sale (Amount.ofNat 900)).1 fill after run
    exact ⟨fill, after, run, given, within⟩
  · have slipped : (execute sale (Amount.ofNat 995)).fails (fun _ _ => true) (fixedRate ⟨.slipped 100, rates, []⟩) =
        true := by decide +kernel
    obtain ⟨failure, after, run, _⟩ := fails_iff.mp slipped
    exact ⟨failure, after, run, (execute_contract _ sale (Amount.ofNat 995)).2 failure after run⟩

end IndexBasket
