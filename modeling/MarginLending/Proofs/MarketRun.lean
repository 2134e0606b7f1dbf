import MarginLending.Proofs.Accrual

/-! Runs of market updates.

A caller keeps a market and applies to it, in any order and at any integer times, interest
accruals and TWAP updates; an update that fails leaves the market as it was. Along every such
run neither cumulative multiplier nor either recorded time ever goes back (`Advances`), and as
long as each accrual starts from a utilization of at most 100%, the deposit multiplier never
overtakes the borrow multiplier.
-/

set_option autoImplicit false

namespace MarginLending

/-! ## Runs of a step function -/

section Runs

variable {σ α : Type} (f : σ → α → σ) (R : σ → σ → Prop) (guard : σ → α → Prop)

theorem rel_of_mem_scanl (refl : ∀ s, R s s) (trans : ∀ {a b c}, R a b → R b c → R a c)
    (step : ∀ s a, guard s a → R s (f s a)) (s : σ) (as : List α)
    (guarded : ∀ p ∈ (List.scanl f s as).zip as, guard p.1 p.2) :
    ∀ t ∈ List.scanl f s as, R s t := by
  induction as generalizing s with
  | nil =>
    intro t member
    rw [List.scanl_nil, List.mem_singleton] at member
    rw [member]
    exact refl s
  | cons a as ih =>
    rw [List.scanl_cons, List.zip_cons_cons] at guarded
    have first := step s a (guarded (s, a) List.mem_cons_self)
    have rest := ih (f s a) fun p later => guarded p (List.mem_cons_of_mem _ later)
    intro t member
    rw [List.scanl_cons] at member
    rcases List.mem_cons.mp member with rfl | later
    · exact refl t
    · exact trans first (rest t later)

theorem pairwise_scanl (refl : ∀ s, R s s) (trans : ∀ {a b c}, R a b → R b c → R a c)
    (step : ∀ s a, guard s a → R s (f s a)) (s : σ) (as : List α)
    (guarded : ∀ p ∈ (List.scanl f s as).zip as, guard p.1 p.2) :
    (List.scanl f s as).Pairwise R := by
  induction as generalizing s with
  | nil =>
    rw [List.scanl_nil]
    exact List.pairwise_singleton _ _
  | cons a as ih =>
    have startGuarded := guarded
    rw [List.scanl_cons, List.zip_cons_cons] at guarded
    rw [List.scanl_cons, List.pairwise_cons]
    exact ⟨fun t later => rel_of_mem_scanl f R guard refl trans step s (a :: as) startGuarded t
        (by rw [List.scanl_cons]; exact List.mem_cons_of_mem _ later),
      ih (f s a) fun p later => guarded p (List.mem_cons_of_mem _ later)⟩

end Runs

end MarginLending

namespace MarginLending.Market

open Arith Lending Data

inductive Update where
  | accrue (now : Int)
  | twapStats (now : Int)
  deriving DecidableEq, Repr

/-- The market after an update; an update that fails leaves the market as it was. -/
def step (m : Market) : Update → Market
  | .accrue now =>
    match m.accrue (.int now) with
    | .ok m' => m'
    | .error _ => m
  | .twapStats now =>
    match m.updateTwapStats (.int now) with
    | .ok m' => m'
    | .error _ => m

def trace (m : Market) : List Update → List Market
  | [] => [m]
  | u :: us => m :: (m.step u).trace us

/-- A recorded time that has not gone back: the same datum, or a later integer time. -/
def TimeAdvances (before after : Value) : Prop :=
  after = before ∨ ∃ x y : Int, before = .int x ∧ after = .int y ∧ x ≤ y

theorem TimeAdvances.refl (v : Value) : TimeAdvances v v := .inl rfl

theorem TimeAdvances.trans {a b c : Value} (first : TimeAdvances a b) (second : TimeAdvances b c) :
    TimeAdvances a c := by
  rcases first with rfl | ⟨x, y, rfl, rfl, xy⟩
  · exact second
  · rcases second with rfl | ⟨y', z, same, rfl, yz⟩
    · exact .inr ⟨x, y, rfl, rfl, xy⟩
    · cases same
      exact .inr ⟨x, z, rfl, rfl, le_trans xy yz⟩

/-- `after` lies no earlier than `before` on a run: neither cumulative multiplier and neither
recorded time has gone back. -/
structure Advances (before after : Market) : Prop where
  deposit_interest : before.cumulativeDepositInterest ≤ after.cumulativeDepositInterest
  borrow_interest : before.cumulativeBorrowInterest ≤ after.cumulativeBorrowInterest
  interest_time : TimeAdvances before.lastInterestTs after.lastInterestTs
  twap_time : before.lastTwapTs ≤ after.lastTwapTs

theorem Advances.refl (m : Market) : Advances m m :=
  ⟨le_refl _, le_refl _, .refl _, le_refl _⟩

theorem Advances.trans {a b c : Market} (first : Advances a b) (second : Advances b c) :
    Advances a c :=
  ⟨le_trans first.1 second.1, le_trans first.2 second.2, first.3.trans second.3,
    le_trans first.4 second.4⟩

/-! ## One update -/

theorem accrue_advances {n : Int} {m m' : Market} (ok : m.accrue (.int n) = .ok m') :
    Advances m m' := by
  obtain ⟨depositGrows, borrowGrows⟩ := accrue_interest_mono ok
  obtain ⟨last, stored, later, recorded⟩ := accrue_time ok
  obtain ⟨_, _, _, framed⟩ := accrue_frame ok
  have twapTime : m'.lastTwapTs = m.lastTwapTs := by rw [framed]
  exact ⟨depositGrows, borrowGrows, .inr ⟨last, n, stored, recorded, later⟩, twapTime.ge⟩

theorem updateTwapStats_advances {n : Int} {m m' : Market}
    (ok : m.updateTwapStats (.int n) = .ok m') : Advances m m' := by
  obtain ⟨-, -, -, rfl⟩ := updateTwapStats_eq_ok ok
  exact ⟨le_refl _, le_refl _, .refl _, le_max_right _ _⟩

theorem step_cases (m : Market) (u : Update) :
    m.step u = m ∨
      (∃ n, u = .accrue n ∧ m.accrue (.int n) = .ok (m.step u)) ∨
      (∃ n, u = .twapStats n ∧ m.updateTwapStats (.int n) = .ok (m.step u)) := by
  cases u with
  | accrue n =>
    cases accrued : m.accrue (.int n) with
    | ok m' => exact .inr (.inl ⟨n, rfl, by simp only [step, accrued]⟩)
    | error _ => exact .inl (by simp only [step, accrued])
  | twapStats n =>
    cases updated : m.updateTwapStats (.int n) with
    | ok m' => exact .inr (.inr ⟨n, rfl, by simp only [step, updated]⟩)
    | error _ => exact .inl (by simp only [step, updated])

theorem step_advances (m : Market) (u : Update) : Advances m (m.step u) := by
  rcases step_cases m u with unchanged | ⟨n, -, accrued⟩ | ⟨n, -, updated⟩
  · rw [unchanged]
    exact .refl m
  · exact accrue_advances accrued
  · exact updateTwapStats_advances updated

/-! ## Runs -/

/-- A run lists the markets a left scan of the updates passes through. -/
theorem trace_eq_scanl (m : Market) (us : List Update) : m.trace us = List.scanl step m us := by
  induction us generalizing m with
  | nil => rfl
  | cons u us ih => rw [trace, ih, List.scanl_cons]

/-- A property of markets that each update keeps, when it starts from a market its guard accepts,
holds along a run whose updates all start from accepted markets. -/
theorem trace_invariant (Inv : Market → Prop) (guard : Market → Update → Prop)
    (keeps : ∀ m u, Inv m → guard m u → Inv (m.step u)) (m : Market) (us : List Update)
    (start : Inv m) (guarded : ∀ p ∈ (m.trace us).zip us, guard p.1 p.2) :
    ∀ s ∈ m.trace us, Inv s := by
  rw [trace_eq_scanl] at guarded ⊢
  -- the invariant is carried as the relation "holds here, so holds there"
  intro s member
  exact rel_of_mem_scanl step (fun a b => Inv a → Inv b) guard (fun _ held => held)
    (fun first second held => second (first held)) (fun s u ok held => keeps s u held ok) m us
    guarded s member start

theorem advances_of_mem_trace (m : Market) (us : List Update) :
    ∀ s ∈ m.trace us, Advances m s :=
  trace_invariant (Advances m) (fun _ _ => True)
    (fun s u reached _ => reached.trans (step_advances s u)) m us (.refl m) (fun _ _ => trivial)

theorem trace_pairwise_advances (m : Market) (us : List Update) :
    (m.trace us).Pairwise Advances := by
  rw [trace_eq_scanl]
  exact pairwise_scanl step Advances (fun _ _ => True) Advances.refl
    (fun first second => first.trans second) (fun s u _ => step_advances s u) m us
    (fun _ _ => trivial)

/-! ## The order of the multipliers -/

theorem step_ordered (m : Market) (u : Update)
    (ordered : m.cumulativeDepositInterest ≤ m.cumulativeBorrowInterest)
    (full : ∀ v, m.utilization = .ok v → v ≤ utilizationPrecision) :
    (m.step u).cumulativeDepositInterest ≤ (m.step u).cumulativeBorrowInterest := by
  rcases step_cases m u with unchanged | ⟨n, -, accrued⟩ | ⟨n, -, updated⟩
  · rw [unchanged]
    exact ordered
  · exact accrue_ordered accrued ordered full
  · -- a TWAP update leaves both multipliers alone
    obtain ⟨_, _, _, framed⟩ := updateTwapStats_eq_ok updated
    rw [framed]
    exact ordered

theorem ordered_of_mem_trace (m : Market) (us : List Update)
    (ordered : m.cumulativeDepositInterest ≤ m.cumulativeBorrowInterest)
    (full : ∀ p ∈ (m.trace us).zip us, ∀ v, p.1.utilization = .ok v → v ≤ utilizationPrecision) :
    ∀ s ∈ m.trace us, s.cumulativeDepositInterest ≤ s.cumulativeBorrowInterest :=
  trace_invariant (fun s => s.cumulativeDepositInterest ≤ s.cumulativeBorrowInterest)
    (fun s _ => ∀ v, s.utilization = .ok v → v ≤ utilizationPrecision) step_ordered m us ordered
    full

/-! ## Main statements -/

/-- Deposits never accrue faster than borrows while the pool is not over-borrowed. From a market
whose deposit multiplier is at most its borrow multiplier and whose utilization lies in
`(0, 100%]`, the deposit increment of a successful accrual is smaller than the borrow increment;
hence along any run of accruals, each starting from a utilization of at most 100%, the deposit
multiplier stays at most the borrow multiplier after every step. -/
theorem deposit_interest_trails_borrow_interest :
    (∀ (m : Market) (now : Value) (u : Int) (a : Accrual),
      m.cumulativeDepositInterest ≤ m.cumulativeBorrowInterest →
      m.utilization = .ok u → 0 < u → u ≤ utilizationPrecision →
      m.accruedInterest now = .ok a → a.deposits < a.borrows) ∧
    (∀ (m : Market) (times : List Int),
      m.cumulativeDepositInterest ≤ m.cumulativeBorrowInterest →
      (∀ p ∈ (m.trace (times.map .accrue)).zip (times.map Update.accrue), ∀ u,
        p.1.utilization = .ok u → u ≤ utilizationPrecision) →
      ∀ s ∈ m.trace (times.map .accrue),
        s.cumulativeDepositInterest ≤ s.cumulativeBorrowInterest) :=
  ⟨fun _ _ _ _ ordered util used full ok =>
      accruedInterest_deposits_lt_borrows ok util used full ordered,
    fun m _ ordered full => ordered_of_mem_trace m _ ordered full⟩

theorem sample_deposit_interest_trails :
    (95890 : Int) < 125571 ∧
      ∀ s ∈ sampleMarket.trace ([1700003600, 1700007200].map .accrue),
        s.cumulativeDepositInterest ≤ s.cumulativeBorrowInterest := by
  refine ⟨deposit_interest_trails_borrow_interest.1 sampleMarket (.int 1700003600) 800000
      ⟨95890, 125571⟩ (by decide) rfl (by decide) (by decide) rfl,
    deposit_interest_trails_borrow_interest.2 sampleMarket _ (by decide) ?_⟩
  intro p member u util
  simp only [List.map_cons, List.map_nil, trace, List.zip_cons_cons, List.zip_nil_right,
    List.mem_cons, List.not_mem_nil, or_false] at member
  rcases member with rfl | rfl
  · have start : sampleMarket.utilization = .ok 800000 := rfl
    rw [start] at util
    cases util
    decide
  · have next : (sampleMarket.step (.accrue 1700003600)).utilization = .ok 800001 := rfl
    rw [next] at util
    cases util
    decide

/-- Market updates are monotone and framed over whole runs. Along any run of interest accruals
and TWAP updates at integer times, in any order and with failed updates leaving the market as it
was, each market lies no earlier than every market before it: neither cumulative multiplier, nor
the last accrual time, nor the TWAP time goes back. An accrual with time passed at a non-zero
utilization strictly raises the borrow multiplier. An accrual writes only the two multipliers and
the last accrual time, and a TWAP update only the three daily TWAPs and the TWAP time. -/
theorem updates_monotone_and_framed :
    (∀ (m : Market) (us : List Update), (m.trace us).Pairwise Advances) ∧
    (∀ (m m' : Market) (now last u : Int), m.accrue (.int now) = .ok m' →
      m.lastInterestTs = .int last → last < now → m.utilization = .ok u → u ≠ 0 →
      m.cumulativeBorrowInterest < m'.cumulativeBorrowInterest) ∧
    (∀ (m m' : Market) (now : Value), m.accrue now = .ok m' →
      ∃ deposit borrow time, m' = { m with
        cumulativeDepositInterest := deposit
        cumulativeBorrowInterest := borrow
        lastInterestTs := time }) ∧
    (∀ (m m' : Market) (now : Int), m.updateTwapStats (.int now) = .ok m' →
      ∃ deposits borrows util time, m' = { m with
        tokenDepositTwap := deposits
        tokenBorrowTwap := borrows
        utilizationTwap := util
        lastTwapTs := time }) :=
  ⟨trace_pairwise_advances,
    fun _ _ _ _ _ ok stored later util used => accrue_borrow_lt ok stored later util used,
    fun _ _ _ ok => accrue_frame ok,
    fun _ _ _ ok => by
      obtain ⟨deposits, borrows, util, framed⟩ := updateTwapStats_eq_ok ok
      exact ⟨deposits, borrows, util, _, framed⟩⟩

theorem sample_accrual_raises_borrow_interest :
    sampleMarket.cumulativeBorrowInterest <
      ({ sampleMarket with
          cumulativeDepositInterest := 10500095890
          cumulativeBorrowInterest := 11000125571
          lastInterestTs := .int 1700003600 } : Market).cumulativeBorrowInterest :=
  updates_monotone_and_framed.2.1 sampleMarket _ 1700003600 1700000000 800000 rfl rfl
    (by decide) rfl (by decide)

end MarginLending.Market
