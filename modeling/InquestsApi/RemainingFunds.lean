import InquestsApi.CreatedClaims

/-! What a created claim can do to the funds of its application: nothing that is paid or set
aside for it should add to them. -/
namespace InquestsApi

open UnitOfWork

/-- A stored claim in an application's history, with the decision given. -/
def Claim.amountWhen (c : Claim) (decision : Option ClaimDecisionStatus) : ApprovedClaimAmount where
  decision := decision
  gross := Amount.valueOf c.totalProfitCostGross
  vatZeroTotal := Amount.valueOf c.totalProfitCostVatZero

/-- The funds that a request finds before its own claim. -/
def CreateClaim.fundsBeforeNewClaim (application : Application) (db : Store) : Decimal :=
  calculateAvailableFunds application.proceeding.substantiveCostLimitation
    (CreateClaim.existingClaimAmounts application.applicationId db)

/-- No stored amount of a claim is below zero, its approval never adds to the funds that a
history leaves, and the funds stored with it are not above those before it. -/
structure NeverAddsFunds (db : Store) (prepared : PreparedClaim) (c : Claim) : Prop where
  net : ∀ n ∈ Amount.valueOf c.totalProfitCostNet, 0 ≤ n
  gross : ∀ g ∈ Amount.valueOf c.totalProfitCostGross, 0 ≤ g
  vatZero : ∀ z ∈ Amount.valueOf c.totalProfitCostVatZero, 0 ≤ z
  total : ∀ total ∈ c.total, 0 ≤ total
  approval : ∀ (limit : Option Int32) (earlier later : List ApprovedClaimAmount)
    (decision : ClaimDecisionStatus),
    calculateAvailableFunds limit (earlier ++ c.amountWhen (some decision) :: later)
      ≤ calculateAvailableFunds limit (earlier ++ c.amountWhen none :: later)
  funds : c.totalFundsRemainingAfterClaim.value
    ≤ CreateClaim.fundsBeforeNewClaim prepared.application db

/-- The difference of the funds and an amount is half a penny above funds of an odd number of
pence, and so is rounded up to the even penny above them. -/
def RoundsUpToEven (before amount : Decimal) : Prop :=
  decimalSub before amount = before + 1 / 200 ∧ storedPence before % 2 ≠ 0

section Balance

variable {before amount : Decimal} {funds : Amount}

theorem calculateAvailableFunds_wholePence (limit : Option Int32) (applicationId : ℕ) (s : Store) :
    WholePence (calculateAvailableFunds limit (CreateClaim.existingClaimAmounts applicationId s)) := by
  have hpayment : ∀ amount ∈ CreateClaim.existingClaimAmounts applicationId s,
      WholePence amount.paymentAmount := by
    intro amount hamount
    obtain ⟨c, -, rfl⟩ := List.mem_map.mp hamount
    exact c.total_wholePence
  have hsum : ∀ amounts : List ApprovedClaimAmount, (∀ a ∈ amounts, WholePence a.paymentAmount) →
      WholePence ((amounts.filter (·.isApproved)).map (·.paymentAmount)).sum := by
    intro amounts
    induction amounts with
    | nil => exact fun _ => wholePence_zero
    | cons a rest ih =>
        intro h
        have hrest := ih fun a ha => h a (List.mem_cons_of_mem _ ha)
        by_cases happroved : a.isApproved = true
        · rw [List.filter_cons_of_pos happroved, List.map_cons, List.sum_cons]
          exact (h a List.mem_cons_self).add hrest
        · rw [List.filter_cons_of_neg happroved]
          exact hrest
  obtain ⟨n, hn⟩ := hsum _ hpayment
  refine ⟨100 * (limit.getD 0).toInt - n, ?_⟩
  rw [calculateAvailableFunds, hn]
  push_cast
  ring

/-- An approval takes the claim total of the history's entry off the funds, and nothing else
is counted differently. -/
theorem calculateAvailableFunds_approve (limit : Option Int32)
    (earlier later : List ApprovedClaimAmount) (a : ApprovedClaimAmount) :
    calculateAvailableFunds limit (earlier ++ a :: later)
      = calculateAvailableFunds limit (earlier ++ later)
        - if a.isApproved then a.paymentAmount else 0 := by
  simp only [calculateAvailableFunds, List.filter_append, List.map_append, List.sum_append]
  by_cases happroved : a.isApproved = true
  · rw [List.filter_cons_of_pos happroved, List.map_cons, List.sum_cons, if_pos happroved]
    ring
  · rw [List.filter_cons_of_neg happroved, if_neg happroved]
    ring

/-- Funds that leave a difference within their column are within the digits of the context. -/
theorem abs_lt_of_remaining (hlow : -(1 / 200) < amount) (hhigh : amount < 10 ^ 8 + 1)
    (h : Amount.ofDecimal (bankersRound (decimalSub before amount)) = some funds) :
    |before| < 10 ^ 10 := by
  have hvalue := Amount.value_of_wholePence (bankersRound_wholePence _) h
  have hfits := funds.fits
  have hround : (Rounding.halfEven (100 * decimalSub before amount) : ℤ) = funds.pence := by
    have hcast : ((Rounding.halfEven (100 * decimalSub before amount) : ℤ) : ℚ) = funds.pence := by
      rw [Amount.value, bankersRound] at hvalue
      linarith
    exact_mod_cast hcast
  have hup := Rounding.halfEven_isNearest.sub_half_le (100 * decimalSub before amount)
  have hdown := Rounding.halfEven_isNearest.le_add_half (100 * decimalSub before amount)
  rw [hround] at hup hdown
  have hpence : |(funds.pence : ℚ)| < 10 ^ 10 := by
    rw [← Int.cast_abs]
    have habs : |funds.pence| < 10 ^ 10 := by
      rw [abs_lt]
      omega
    exact_mod_cast habs
  obtain ⟨hpenceLow, hpenceHigh⟩ := abs_lt.mp hpence
  have hdigits : |(10 ^ 9 : ℤ)| < 10 ^ contextPrecision := by decide
  have hdigits' : |(-10 ^ 9 : ℤ)| < 10 ^ contextPrecision := by decide
  rw [abs_lt]
  constructor
  · by_contra hbelow
    have hle : before - amount ≤ ((-10 ^ 9 : ℤ) : ℚ) * 10 ^ (-(0 : ℤ)) := by
      push_cast
      linarith
    have hrounded := Rounding.toPrecision_le (by decide) hdigits' hle
    have hsub : decimalSub before amount = Rounding.toPrecision contextPrecision (before - amount) := rfl
    rw [← hsub] at hrounded
    push_cast at hrounded
    linarith
  · by_contra habove
    have hle : ((10 ^ 9 : ℤ) : ℚ) * 10 ^ (-(0 : ℤ)) ≤ before - amount := by
      push_cast
      linarith
    have hrounded := Rounding.le_toPrecision (by decide) hdigits hle
    have hsub : decimalSub before amount = Rounding.toPrecision contextPrecision (before - amount) := rfl
    rw [← hsub] at hrounded
    push_cast at hrounded
    linarith

/-- An amount of no pence or more leaves no more than the funds, rounding apart. -/
theorem remaining_le_iff (hbefore : WholePence before) (hlow : -(1 / 200) < amount)
    (hhigh : amount < 10 ^ 8 + 1)
    (h : Amount.ofDecimal (bankersRound (decimalSub before amount)) = some funds) :
    funds.value ≤ before ↔ ¬ RoundsUpToEven before amount := by
  have hbound := abs_lt.mp (abs_lt_of_remaining hlow hhigh h)
  rw [Amount.value_of_wholePence (bankersRound_wholePence _) h]
  obtain ⟨n, rfl⟩ := hbefore
  have hpence : storedPence ((n : ℚ) / 100) = n := by
    have hhundred : 100 * ((n : ℚ) / 100) = n := by ring
    rw [storedPence, hhundred, Rounding.halfAway_isNearest.intCast]
  have hdigits : |10 * n + 5| < 10 ^ contextPrecision := by
    have hnLow : (-10 ^ 12 : ℚ) < n := by linarith [hbound.1]
    have hnHigh : (n : ℚ) < 10 ^ 12 := by linarith [hbound.2]
    have hnLow' : -10 ^ 12 < n := by exact_mod_cast hnLow
    have hnHigh' : n < 10 ^ 12 := by exact_mod_cast hnHigh
    rw [abs_lt, contextPrecision]
    omega
  have hhalf : ((10 * n + 5 : ℤ) : ℚ) * 10 ^ (-(3 : ℤ)) = (n : ℚ) / 100 + 1 / 200 := by
    rw [zpow_neg]
    push_cast
    ring
  have hle : decimalSub ((n : ℚ) / 100) amount ≤ (n : ℚ) / 100 + 1 / 200 := by
    rw [← hhalf, decimalSub]
    refine Rounding.toPrecision_le (by decide) hdigits ?_
    rw [hhalf]
    linarith
  have hround : bankersRound (decimalSub ((n : ℚ) / 100) amount) ≤ (n : ℚ) / 100
      ↔ Rounding.halfEven (100 * decimalSub ((n : ℚ) / 100) amount) ≤ n := by
    rw [bankersRound, div_le_div_iff_of_pos_right (by norm_num)]
    exact Int.cast_le
  rw [hround, RoundsUpToEven, hpence]
  by_cases htie : decimalSub ((n : ℚ) / 100) amount = (n : ℚ) / 100 + 1 / 200
  · have hscaled : 100 * decimalSub ((n : ℚ) / 100) amount = (n : ℚ) + 1 / 2 := by
      rw [htie]
      ring
    rw [hscaled, Rounding.halfEven_add_half]
    by_cases heven : n % 2 = 0
    · rw [if_pos heven]
      exact iff_of_true le_rfl fun hodd => hodd.2 heven
    · rw [if_neg heven]
      refine iff_of_false (by omega) ?_
      exact not_not.mpr ⟨htie, heven⟩
  · refine iff_of_true ?_ fun hodd => htie hodd.1
    have hlt := lt_of_le_of_ne hle htie
    have hnext : Rounding.halfEven (100 * decimalSub ((n : ℚ) / 100) amount) < n + 1 := by
      refine Rounding.halfEven_isNearest.lt_of_lt_sub_half ?_
      push_cast
      linarith
    omega

end Balance

section Created

variable {command : CreateClaimCommand} {prepared : PreparedClaim} {db : Store} {c : Claim}

theorem Claim.total_nonneg (hgross : ∀ g ∈ Amount.valueOf c.totalProfitCostGross, 0 ≤ g)
    (hvatZero : ∀ z ∈ Amount.valueOf c.totalProfitCostVatZero, 0 ≤ z) :
    ∀ total ∈ c.total, 0 ≤ total := by
  intro total htotal
  unfold Claim.total at htotal
  rcases resolveClaimTotal_eq_or (Amount.valueOf c.totalProfitCostGross)
    (Amount.valueOf c.totalProfitCostVatZero) with h | h
  · rw [h] at htotal
    exact hgross total htotal
  · rw [h] at htotal
    exact hvatZero total htotal

/-- A claim that costs nothing below zero takes nothing below zero off the funds. -/
theorem Claim.approval_le (htotal : ∀ total ∈ c.total, 0 ≤ total) (limit : Option Int32)
    (earlier later : List ApprovedClaimAmount) (decision : ClaimDecisionStatus) :
    calculateAvailableFunds limit (earlier ++ c.amountWhen (some decision) :: later)
      ≤ calculateAvailableFunds limit (earlier ++ c.amountWhen none :: later) := by
  have hundecided : (c.amountWhen none).isApproved = false := rfl
  have hpayment : 0 ≤ (c.amountWhen (some decision)).paymentAmount := by
    have hsame : (c.amountWhen (some decision)).paymentAmount = c.total.getD 0 := rfl
    rw [hsame]
    cases hresolved : c.total with
    | none => exact le_refl _
    | some total => exact htotal total hresolved
  rw [calculateAvailableFunds_approve, calculateAvailableFunds_approve, hundecided,
    if_neg Bool.false_ne_true]
  by_cases happroved : (c.amountWhen (some decision)).isApproved = true
  · rw [if_pos happroved]
    linarith
  · rw [if_neg happroved]

theorem storedPence_nonneg_iff {x : Decimal} : 0 ≤ storedPence x ↔ -(1 / 200) < x := by
  rw [storedPence, Rounding.halfAway_nonneg_iff]
  constructor <;> intro h <;> linarith

theorem lt_of_storedPence_fits {x : Decimal} {a : Amount} (h : Amount.ofDecimal x = some a) :
    x < 10 ^ 8 + 1 := by
  have hfits := a.fits
  rw [Amount.pence_of_ofDecimal h] at hfits
  have hlow := Rounding.halfAway_isNearest.sub_half_le (100 * x)
  have hpence : (storedPence x : ℚ) < 10 ^ 10 := by
    have hlt : storedPence x < 10 ^ 10 := by omega
    exact_mod_cast hlt
  rw [storedPence] at hpence
  linarith

/-- A claim total of stored fields is within their columns, and in pence not below zero if
they are not. -/
theorem total_bounds {gross vatZeroTotal : Option Decimal} {a b : Option Amount}
    (hgross : Amount.ofNullable gross = some a) (hvatZero : Amount.ofNullable vatZeroTotal = some b)
    (hpence : PenceNonneg gross vatZeroTotal) :
    -(1 / 200) < (resolveClaimTotal gross vatZeroTotal).getD 0
      ∧ (resolveClaimTotal gross vatZeroTotal).getD 0 < 10 ^ 8 + 1 := by
  have hbounds : ∀ {x : Option Decimal} {a : Option Amount}, Amount.ofNullable x = some a →
      (∀ y ∈ x, 0 ≤ storedPence y) → -(1 / 200) < x.getD 0 ∧ x.getD 0 < 10 ^ 8 + 1 := by
    intro x a hx hnonneg
    cases x with
    | none => exact ⟨by norm_num, by norm_num⟩
    | some y =>
        obtain ⟨b, hb, -⟩ := Option.map_eq_some_iff.mp hx
        exact ⟨storedPence_nonneg_iff.mp (hnonneg y rfl), lt_of_storedPence_fits hb⟩
  rcases resolveClaimTotal_eq_or gross vatZeroTotal with h | h
  · rw [h]
    exact hbounds hgross hpence.gross
  · rw [h]
    exact hbounds hvatZero hpence.vatZero

theorem CreatedBy.neverAddsFunds_iff (h : CreatedBy command db prepared c) :
    NeverAddsFunds db prepared c
      ↔ PenceNonneg command.gross command.vatZeroTotal
        ∧ ¬ RoundsUpToEven (CreateClaim.fundsBeforeNewClaim prepared.application db)
            ((resolveClaimTotal command.gross command.vatZeroTotal).getD 0) := by
  have hvalidated := prepare_validated h.prepare
  have hgross := nonneg_column_iff h.stored.gross
  have hvatZero := nonneg_column_iff h.stored.vatZero
  -- the stored funds are the difference that was worked out with the checked total
  have hfunds := h.funds
  rw [prepare_funds h.prepare, CreateClaim.calculateTotalFundsRemaining,
    ApprovedClaimAmount.paymentAmount, hvalidated.total] at hfunds
  have hremaining : PenceNonneg command.gross command.vatZeroTotal →
      (c.totalFundsRemainingAfterClaim.value
          ≤ CreateClaim.fundsBeforeNewClaim prepared.application db
        ↔ ¬ RoundsUpToEven (CreateClaim.fundsBeforeNewClaim prepared.application db)
            ((resolveClaimTotal command.gross command.vatZeroTotal).getD 0)) := by
    intro hpence
    obtain ⟨hlow, hhigh⟩ := total_bounds h.stored.gross h.stored.vatZero
      (hvalidated.penceNonneg_iff.mpr hpence)
    rw [hvalidated.total] at hlow hhigh
    exact remaining_le_iff (calculateAvailableFunds_wholePence _ _ _) hlow hhigh hfunds
  constructor
  · intro hnever
    have hpence : PenceNonneg command.gross command.vatZeroTotal :=
      hvalidated.penceNonneg_iff.mp ⟨hgross.mp hnever.gross, hvatZero.mp hnever.vatZero⟩
    exact ⟨hpence, (hremaining hpence).mp hnever.funds⟩
  · rintro ⟨hpence, hrounds⟩
    have hstored := hvalidated.penceNonneg_iff.mpr hpence
    have htotal : ∀ total ∈ c.total, 0 ≤ total :=
      Claim.total_nonneg (hgross.mpr hstored.gross) (hvatZero.mpr hstored.vatZero)
    refine ⟨?_, hgross.mpr hstored.gross, hvatZero.mpr hstored.vatZero, htotal,
      Claim.approval_le htotal, (hremaining hpence).mpr hrounds⟩
    refine (nonneg_column_iff h.stored.net).mpr fun n hn => storedPence_nonneg_iff.mpr ?_
    have hnonneg := hvalidated.net_nonneg n hn
    linarith

/-- The claim of a create request never adds to the funds of its application exactly when the
gross and the zero-rated total of the request are, in pence, not below zero, and what is
left is not rounded up over them. -/
theorem created_neverAddsFunds_iff (env : Env) (faults : Faults) (command : CreateClaimCommand)
    (db : Store) (c : Claim)
    (hc : c ∈ (endState (CreateClaim.execute env faults command (.start db))).committed.claims)
    (hnew : c ∉ db.claims) :
    ∃ prepared, CreateClaim.prepare command db = .ok prepared
      ∧ (NeverAddsFunds db prepared c
        ↔ PenceNonneg command.gross command.vatZeroTotal
          ∧ ¬ RoundsUpToEven (CreateClaim.fundsBeforeNewClaim prepared.application db)
              ((resolveClaimTotal command.gross command.vatZeroTotal).getD 0)) := by
  rcases execute_created env faults command hc with hold | ⟨prepared, hcreated⟩
  · exact absurd hold hnew
  · exact ⟨prepared, hcreated.prepare, hcreated.neverAddsFunds_iff⟩

end Created

open Sample in
theorem created_neverAddsFunds_sample :
    ∃ prepared, ∃ c ∈ ((create (poaCommand .expertCost none (some 120) (some 20))).after store).claims,
      NeverAddsFunds store prepared c := by
  have hcreated : ((create (poaCommand .expertCost none (some 120) (some 20))).after store).claims.length
      = 1 := by decide +kernel
  obtain ⟨c, hclaims⟩ := List.length_eq_one_iff.mp hcreated
  have hc : c ∈ ((create (poaCommand .expertCost none (some 120) (some 20))).after store).claims := by
    rw [hclaims]
    exact List.mem_singleton_self c
  obtain ⟨prepared, hprepare, hiff⟩ := created_neverAddsFunds_iff env noFaults
    (poaCommand .expertCost none (some 120) (some 20)) store c hc (fun h => nomatch h)
  refine ⟨prepared, c, hc, hiff.mpr ⟨?_, ?_⟩⟩
  · constructor <;> intro x hx <;> cases hx <;> decide +kernel
  · have hbefore : (CreateClaim.prepare (poaCommand .expertCost none (some 120) (some 20)) store).toOption.map
        (fun p => CreateClaim.fundsBeforeNewClaim p.application store) = some 10000 := by
      decide +kernel
    rw [hprepare] at hbefore
    have hfunds : CreateClaim.fundsBeforeNewClaim prepared.application store = 10000 :=
      Option.some.inj hbefore
    rw [hfunds]
    rintro ⟨htie, -⟩
    have hleft : decimalSub 10000 ((resolveClaimTotal (some 120) (some 20)).getD 0) ≠ 10000 + 1 / 200 := by
      decide +kernel
    exact hleft htie

open Sample in
/-- Zero-rated profit costs of -50.00 are accepted and approved, and leave 10,050.00 of the
10,000.00 there were. -/
theorem negative_zeroRated_adds_funds :
    let before := calculateAvailableFunds (some 10000) (CreateClaim.existingClaimAmounts 1 store)
    let s := (create (poaCommand .profitCost none none (some (-50)))).after store
    before = 10000
      ∧ calculateAvailableFunds (some 10000) (CreateClaim.existingClaimAmounts 1 s) = 10050
      ∧ ∃ c ∈ s.claims, c.total = some (-50) ∧ c.totalFundsRemainingAfterClaim.value = 10050
        ∧ ∀ prepared, ¬ NeverAddsFunds store prepared c := by
  refine ⟨by decide +kernel, by decide +kernel, ?_⟩
  have hstored : ∃ c ∈ ((create (poaCommand .profitCost none none (some (-50)))).after store).claims,
      c.total = some (-50) ∧ c.totalFundsRemainingAfterClaim.value = 10050 := by decide +kernel
  obtain ⟨c, hc, htotal, hfunds⟩ := hstored
  refine ⟨c, hc, htotal, hfunds, fun prepared h => ?_⟩
  have hnonneg := h.total (-50) htotal
  norm_num at hnonneg

end InquestsApi
