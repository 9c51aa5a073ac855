import Pentagon5.Proofs.BrokerLedger

/-!
# The mock broker under the default decimal context

The default context rounds every result to 28 significant digits. The run of the broker under
it is compared, call by call, with the run under exact arithmetic: as long as the rounding
spares the amounts of each order, both go through the same cash and the same positions.
-/

namespace Pentagon5.Broker

open Python MockBrokerProvider

/-- `x` has at most 28 significant digits and its exponent is in range. -/
abbrev Representable (x : ℚ) : Prop := Format.default.Representable x

/-- The order moved exactly what it asked for, and was covered. -/
def MovedExactly (p : MockBrokerProvider) (request : OrderRequest) (p' : MockBrokerProvider) : Prop :=
  ∃ q, request.quantity = .finite q ∧ p.Covers request.side request.symbol q ∧
    p'.account.cashBalance = .finite (p.cash - request.side.signed q * marketPrice) ∧
    p'.held request.symbol = p.held request.symbol + request.side.signed q

/-- A call does to `p`, under the default context, what it does to `e` with exact arithmetic. -/
structure AsExact (p e : MockBrokerProvider) (call : Call) : Prop where
  decision : ∀ request orderId executionId now, call = .placeOrder request orderId executionId now →
    (call.perform .default p).1.isOk = (call.perform .exact e).1.isOk
  cash : (call.perform .default p).2.account.cashBalance =
    (call.perform .exact e).2.account.cashBalance
  positions : (call.perform .default p).2.positions = (call.perform .exact e).2.positions
  moved : ∀ request orderId executionId now, call = .placeOrder request orderId executionId now →
    (call.perform .default p).1.isOk = true → MovedExactly p request (call.perform .default p).2

/-- Rounding leaves the amounts of an order alone: a covered purchase has a notional, a new
quantity and a remaining cash of 28 digits, the notional of one that is not covered does not
round down to the cash, and a covered sale leaves a quantity of 28 digits and adds its rounded
notional to the cash exactly. -/
def Spares (e : MockBrokerProvider) (request : OrderRequest) : Prop :=
  ∀ q, request.quantity = .finite q →
    match request.side with
    | .buy =>
      if q * marketPrice ≤ e.cash then
        Representable (q * marketPrice) ∧ Representable (e.held request.symbol + q) ∧
          Representable (e.cash - q * marketPrice)
      else Context.default.round (q * marketPrice) ≠ .ok e.cash
    | .sell =>
      q ≤ e.held request.symbol →
        Representable (e.held request.symbol - q) ∧
          ∃ notional, Context.default.round (q * marketPrice) = .ok notional ∧
            Context.default.round (e.cash + notional) = .ok (e.cash + q * marketPrice)

/-- The condition on the state before a call: a market order that reaches the fill is spared. -/
def SparesCall (e : MockBrokerProvider) : Call → Prop
  | .placeOrder request _ _ _ =>
    e.connected = true → request.orderType = .market → Spares e request
  | _ => True

section Step

variable {p e p' e' : MockBrokerProvider} {request : OrderRequest} {orderId executionId : Str}
  {now : Datetime} {q : ℚ}

/-- The amounts of a provider have few digits. -/
structure Digits (p : MockBrokerProvider) : Prop where
  cash : Representable p.cash
  held : ∀ symbol, Representable (p.held symbol)

/-- Two providers with the same connection, cash and positions. -/
structure Synced (p e : MockBrokerProvider) : Prop where
  connected : p.connected = e.connected
  positions : p.positions = e.positions
  cash : p.account.cashBalance = e.account.cashBalance

lemma Synced.cash_eq (h : Synced p e) : p.cash = e.cash := by
  rw [MockBrokerProvider.cash, MockBrokerProvider.cash, h.cash]

lemma Synced.held_eq (h : Synced p e) (symbol : Str) : p.held symbol = e.held symbol := by
  rw [held, held, h.positions]

lemma abs_le_pow {x : ℚ} (h0 : 0 ≤ x) (h : x ≤ startingCash) : |x| ≤ 10 ^ 9 := by
  rw [abs_of_nonneg h0]
  exact h.trans (by norm_num [startingCash])

lemma Representable.mul_marketPrice {x : ℚ} (h : Representable x) (h0 : 0 ≤ x)
    (hle : x * marketPrice ≤ startingCash) : Representable (x * marketPrice) := by
  have hx : 0 ≤ x * marketPrice := mul_nonneg h0 (by norm_num [marketPrice])
  have hm : marketPrice = 10 ^ 2 := by norm_num [marketPrice]
  rw [hm] at hx hle ⊢
  exact h.mul_zpow 2 (Format.Default.lt_limit (abs_le_pow hx hle))

lemma representable_cost (hs : p.Sound) (hd : Digits p) (symbol : Str) :
    Representable (p.held symbol * marketPrice) :=
  (hd.held symbol).mul_marketPrice (hs.held_nonneg symbol) (hs.held_le symbol)

/-- The roundings of a covered order that is spared are exact. -/
lemma keeps_default (hs : p.Sound) (hd : Digits p) (hq : request.quantity = .finite q)
    (hpos : 0 < q) (hcov : p.Covers request.side request.symbol q) (hsp : Spares p request) :
    p.Keeps .default request.side request.symbol q := by
  have hspq := hsp q hq
  cases hside : request.side with
  | buy =>
    rw [hside] at hcov hspq
    have hcov' : q * marketPrice ≤ p.cash := hcov
    simp only [hcov', if_true] at hspq
    obtain ⟨hn, hsum, hrest⟩ := hspq
    have hheld := hs.held_nonneg request.symbol
    have htotal : Representable
        (p.held request.symbol * marketPrice + q * marketPrice) := by
      rw [← add_mul]
      refine hsum.mul_marketPrice (by linarith) ?_
      have hle : p.held request.symbol * marketPrice ≤ worth p.positions := hs.held_le_worth _
      have := hs.conserved
      rw [add_mul]
      linarith
    exact ⟨Format.round_self_iff.mpr hn, Format.round_self_iff.mpr (representable_cost hs hd _),
      Format.round_self_iff.mpr hsum, Format.round_self_iff.mpr htotal,
      Format.round_self_iff.mpr (by
        rw [show marketPrice = 10 ^ 2 by norm_num [marketPrice]]
        exact Format.Default.representable_ten_pow (by norm_num)),
      Format.round_self_iff.mpr hrest⟩
  | sell =>
    rw [hside] at hcov hspq
    obtain ⟨hrest, hcash⟩ := hspq hcov
    exact ⟨Format.round_self_iff.mpr hrest, hcash⟩

/-- An order that is spared and not covered is found lacking. -/
lemma lacks_default (hs : p.Sound) (hd : Digits p) (hq : request.quantity = .finite q)
    (hcov : ¬p.Covers request.side request.symbol q) (hsp : Spares p request) :
    p.Lacks .default request.side request.symbol (.finite q) := by
  have hspq := hsp q hq
  cases hside : request.side with
  | buy =>
    rw [hside] at hcov hspq
    have hcov' : ¬q * marketPrice ≤ p.cash := hcov
    simp only [hcov', if_false] at hspq
    intro notional hn
    rw [Decimal.finite_mul] at hn
    rcases hr : Context.default.round (q * marketPrice) with signal | n
    · rw [hr] at hn
      cases hn
    · rw [hr] at hn
      cases hn
      obtain ⟨-, he⟩ := Format.round_eq_ok.mp hr
      have hle : p.cash ≤ n := he ▸ Format.le_nearest_of_le hd.cash.onGrid (not_le.mp hcov').le
      have hne : p.cash ≠ n := by
        rintro rfl
        exact hspq hr
      rw [hs.cash_eq, Decimal.finite_lt, decide_eq_true (lt_of_le_of_ne hle hne)]
  | sell =>
    rw [hside] at hcov
    intro position hget
    rw [(hs.priced _ position hget).quantity_eq, Decimal.finite_lt, decide_eq_true (not_le.mp hcov)]

/-- The market value of moderate positions is defined, and no more than four times exact. -/
lemma marketValue_default {positions : List Position} (total : ℚ)
    (hq : ∀ position ∈ positions, position.quantity = .finite position.quantity.toRat ∧
      0 ≤ position.quantity.toRat)
    (ht : Representable total) (h0 : 0 ≤ total)
    (hle : total + 4 * (positions.map fun position => position.quantity.toRat * marketPrice).sum ≤
      10 ^ 8) :
    ∃ value, marketValue .default positions (.finite total) = .ok (.finite value) ∧ 0 ≤ value ∧
      value ≤ 10 ^ 8 := by
  induction positions generalizing total with
  | nil =>
    refine ⟨total, rfl, h0, ?_⟩
    simpa using hle
  | cons position positions ih =>
    obtain ⟨hfin, hpos⟩ := hq position List.mem_cons_self
    have hrest : ∀ position ∈ positions, position.quantity =
        .finite position.quantity.toRat ∧ 0 ≤ position.quantity.toRat :=
      fun a ha => hq a (List.mem_cons_of_mem _ ha)
    rw [List.map_cons, List.sum_cons] at hle
    generalize position.quantity.toRat = q at hfin hpos hle
    have hsum : 0 ≤ (positions.map fun position => position.quantity.toRat * marketPrice).sum := by
      apply List.sum_nonneg
      simp only [List.mem_map, forall_exists_index, and_imp, forall_apply_eq_imp_iff₂]
      exact fun a ha => mul_nonneg (hrest a ha).2 (by norm_num [marketPrice])
    have hx : 0 ≤ q * marketPrice := mul_nonneg hpos (by norm_num [marketPrice])
    have hround : Context.default.round (q * marketPrice) =
        .ok (Format.default.nearest (q * marketPrice)) :=
      Format.Default.round_eq (by rw [abs_of_nonneg hx]; linarith)
    have hv0 := Format.Default.nearest_nonneg hx
    have hv : Format.default.nearest (q * marketPrice) ≤ 2 * (q * marketPrice) := by
      have := Format.Default.nearest_add_le Format.Default.representable_zero hx
      rwa [zero_add, zero_add] at this
    generalize Format.default.nearest (q * marketPrice) = v at hround hv0 hv
    have ht' := Format.Default.nearest_add_le ht hv0
    have ht0 := Format.Default.nearest_nonneg (x := total + v) (by linarith)
    have hround' : Context.default.round (total + v) = .ok (Format.default.nearest (total + v)) :=
      Format.Default.round_eq (by rw [abs_of_nonneg (by linarith)]; linarith)
    have hrep : Representable (Format.default.nearest (total + v)) :=
      Format.representable_of_round hround'
    generalize Format.default.nearest (total + v) = t at ht' ht0 hround' hrep
    obtain ⟨value, hvalue, hb⟩ := ih _ hrest hrep ht0 (by linarith)
    refine ⟨value, ?_, hb⟩
    rw [marketValue, hfin, Decimal.finite_mul, hround]
    change (arith ((Decimal.finite total).add .default (.finite v)) >>= _) = _
    rw [Decimal.finite_add, hround']
    exact hvalue

/-- A fill determines the positions it leaves. -/
lemma moves_unique {positions positions₁ positions₂ : Dict Str Position} {symbol : Str} {h : ℚ}
    (h₁ : Moves positions symbol h now positions₁) (h₂ : Moves positions symbol h now positions₂) :
    positions₁ = positions₂ := by
  rcases h₁ with ⟨hz, rfl⟩ | ⟨a, ha, hta, rfl⟩ <;> rcases h₂ with ⟨hz', rfl⟩ | ⟨b, hb, htb, rfl⟩
  · rfl
  · exact absurd hz hb.positive.ne'
  · exact absurd hz' ha.positive.ne'
  · congr 1
    apply Position.ext
    · rw [ha.symbol_eq, hb.symbol_eq]
    · rw [ha.quantity_eq, hb.quantity_eq]
    · rw [ha.averagePrice, hb.averagePrice]
    · rw [hta, htb]

/-- After a fill that is spared the equity is defined. -/
lemma refresh_default (hs : p.Sound) {positions' : Dict Str Position} (hpos : 0 < q)
    (hcov : p.Covers request.side request.symbol q)
    (hm : Moves p.positions request.symbol (p.held request.symbol + request.side.signed q) now
      positions') :
    ∃ value equity, marketValue .default positions'.values (.finite 0) = .ok value ∧
      (Decimal.finite (p.cash - request.side.signed q * marketPrice)).add .default value =
        .ok equity := by
  have hworth : worth positions' = worth p.positions + request.side.signed q * marketPrice := by
    rw [worth_of_moves rfl hm, ← held]
    ring
  have hcash0 := hs.cash_after_nonneg hpos.le hcov
  have hconserved := hs.conserved
  have hstart : startingCash = 10 ^ 5 := by norm_num [startingCash]
  have hworth0 : 0 ≤ worth positions' := by
    apply List.sum_nonneg
    simp only [List.mem_map, forall_exists_index, and_imp, forall_apply_eq_imp_iff₂]
    exact fun position hv => mul_nonneg (finite_of_moves hs hm position hv).2 (by norm_num [marketPrice])
  obtain ⟨value, hv, hv0, hvle⟩ := marketValue_default 0 (finite_of_moves hs hm)
    Format.Default.representable_zero le_rfl (by
      change 0 + 4 * worth positions' ≤ 10 ^ 8
      linarith)
  refine ⟨_, .finite (Format.default.nearest
    (p.cash - request.side.signed q * marketPrice + value)), hv, ?_⟩
  have hround : Context.default.round (p.cash - request.side.signed q * marketPrice + value) = _ :=
    Format.Default.round_eq (by rw [abs_of_nonneg (by linarith)]; linarith)
  rw [Decimal.finite_add, hround]
  rfl

lemma movedExactly_of_filled (hf : Filled p request orderId executionId now q p') :
    MovedExactly p request p' := ⟨q, hf.quantity, hf.covers, hf.cash, hf.held_self⟩

/-- The invariant of the two runs. -/
structure Alike (p e : MockBrokerProvider) : Prop where
  sound : p.Sound
  settled : p.Settled
  exact : e.Exact
  digits : Digits p
  synced : Synced p e

lemma covers_congr (h : Synced p e) (side : OrderSide) (symbol : Str) (q : ℚ) :
    p.Covers side symbol q ↔ e.Covers side symbol q := by
  cases side with
  | buy => simp only [Covers, h.cash_eq]
  | sell => simp only [Covers, h.held_eq]

lemma spares_congr (h : Synced p e) : Spares p request ↔ Spares e request := by
  simp only [Spares, h.cash_eq, h.held_eq]

/-- Both runs refuse an order and keep what they have. -/
lemma alike_of_refused {b c : BrokerError} (h : Alike p e)
    (hp : placeOrder .default request orderId executionId now p = .error b p)
    (he : placeOrder .exact request orderId executionId now e = .error c e) :
    Alike ((Call.placeOrder request orderId executionId now).perform .default p).2
        ((Call.placeOrder request orderId executionId now).perform .exact e).2 ∧
      AsExact p e (.placeOrder request orderId executionId now) := by
  have hp' : (Call.placeOrder request orderId executionId now).perform .default p = (.error b, p) := by
    rw [Call.perform, hp]
    rfl
  have he' : (Call.placeOrder request orderId executionId now).perform .exact e = (.error c, e) := by
    rw [Call.perform, he]
    rfl
  rw [hp', he']
  refine ⟨h, ?_⟩
  constructor
  · intro _ _ _ _ _
    rw [hp', he']
    rfl
  · rw [hp', he']
    exact h.synced.cash
  · rw [hp', he']
    exact h.synced.positions
  · intro _ _ _ _ _ hok
    rw [hp'] at hok
    cases hok

/-- Both runs fill an order, for the same quantity. -/
lemma alike_of_filled (h : Alike p e) (hdigits : Digits p')
    (hp : placeOrder .default request orderId executionId now p = .ok (request.order orderId now) p')
    (he : placeOrder .exact request orderId executionId now e = .ok (request.order orderId now) e')
    (hfp : Filled p request orderId executionId now q p')
    (hfe : Filled e request orderId executionId now q e')
    (hequity : e'.account.equity = .finite (e'.cash + worth e'.positions)) :
    Alike ((Call.placeOrder request orderId executionId now).perform .default p).2
        ((Call.placeOrder request orderId executionId now).perform .exact e).2 ∧
      AsExact p e (.placeOrder request orderId executionId now) := by
  have hp' : (Call.placeOrder request orderId executionId now).perform .default p = (.ok (), p') := by
    rw [Call.perform, hp]
    rfl
  have he' : (Call.placeOrder request orderId executionId now).perform .exact e = (.ok (), e') := by
    rw [Call.perform, he]
    rfl
  have hpositions : p'.positions = e'.positions := by
    refine moves_unique hfp.moves ?_
    rw [h.synced.positions, h.synced.held_eq]
    exact hfe.moves
  have hcash : p'.account.cashBalance = e'.account.cashBalance := by
    rw [hfp.cash, hfe.cash, h.synced.cash_eq]
  rw [hp', he']
  refine ⟨⟨hfp.sound h.sound, hfp.settled h.settled,
    ⟨hfe.sound h.exact.sound, hfe.settled h.exact.settled, hequity⟩, hdigits, ?_, hpositions,
    hcash⟩, ?_⟩
  · rw [hfp.connected, hfe.connected, h.synced.connected]
  · constructor
    · intro _ _ _ _ _
      rw [hp', he']
    · rw [hp', he']
      exact hcash
    · rw [hp', he']
      exact hpositions
    · rintro _ _ _ _ ⟨⟩ _
      rw [hp']
      exact movedExactly_of_filled hfp

lemma digits_of_filled (hd : Digits p) (hf : Filled p request orderId executionId now q p')
    (hsp : Spares p request) : Digits p' := by
  have hspq := hsp q hf.quantity
  have hcov := hf.covers
  have hcash := hf.cash_eq
  have hheld := hf.held_self
  have key : Representable p'.cash ∧ Representable (p'.held request.symbol) := by
    rw [hcash, hheld]
    cases hside : request.side with
    | buy =>
      rw [hside] at hcov hspq
      have hcov' : q * marketPrice ≤ p.cash := hcov
      simp only [hcov', if_true] at hspq
      exact ⟨hspq.2.2, hspq.2.1⟩
    | sell =>
      rw [hside] at hcov hspq
      obtain ⟨hrest, notional, -, hround⟩ := hspq hcov
      have hrep := Format.representable_of_round hround
      rw [OrderSide.signed, neg_mul, sub_neg_eq_add, ← sub_eq_add_neg]
      exact ⟨hrep, hrest⟩
  refine ⟨key.1, fun symbol => ?_⟩
  by_cases hsym : symbol = request.symbol
  · rw [hsym]
    exact key.2
  · rw [hf.held_of_ne hsym]
    exact hd.held symbol

/-- One order that the rounding spares. -/
lemma alike_placeOrder (h : Alike p e)
    (hsp : SparesCall e (.placeOrder request orderId executionId now)) :
    Alike ((Call.placeOrder request orderId executionId now).perform .default p).2
        ((Call.placeOrder request orderId executionId now).perform .exact e).2 ∧
      AsExact p e (.placeOrder request orderId executionId now) := by
  by_cases hready : p.connected = true → request.orderType ≠ .market
  · obtain ⟨b, -, hb⟩ := placeOrder_of_unready orderId executionId now hready
    rw [h.synced.connected] at hready
    obtain ⟨c, -, hc⟩ := placeOrder_of_unready orderId executionId now hready
    exact alike_of_refused h (hb .default) (hc .exact)
  obtain ⟨hconn, hm⟩ : p.connected = true ∧ request.orderType = .market := by
    simpa using hready
  have hconn' : e.connected = true := h.synced.connected ▸ hconn
  have hspe := hsp hconn' hm
  have hspp := (spares_congr h.synced).mpr hspe
  have hpos := positive_of_validateOrder request.valid
  rcases hq : request.quantity with x | s | _
  · rw [hq] at hpos
    by_cases hcov : p.Covers request.side request.symbol x
    · have hcov' := (covers_congr h.synced _ _ _).mp hcov
      obtain ⟨p', hp, hfp, -⟩ := placeOrder_of_keeps .default orderId executionId now
        h.sound hconn hm hq hcov (keeps_default h.sound h.digits hq hpos hcov hspp)
        (fun positions' hmoves => refresh_default h.sound hpos hcov hmoves)
      rcases placeOrder_exact request orderId executionId now h.exact.sound with
        ⟨c, -, hc⟩ | ⟨q', e', he, hfe, hequity⟩
      · obtain ⟨e', he, -⟩ := placeOrder_of_keeps .exact orderId executionId now h.exact.sound hconn' hm hq hcov'
          (keeps_exact _ _ _) (fun positions' hmoves =>
            ⟨_, _, marketValue_exact (finite_of_moves h.exact.sound hmoves) 0, rfl⟩)
        rw [hc] at he
        cases he
      · obtain rfl : x = q' := Decimal.finite.inj (hq.symm.trans hfe.quantity)
        exact alike_of_filled h (digits_of_filled h.digits hfp hspp) hp he hfp hfe hequity
    · have hcov' : ¬e.Covers request.side request.symbol x :=
        fun hc => hcov ((covers_congr h.synced _ _ _).mpr hc)
      obtain ⟨b, hb, -⟩ := placeOrder_of_lacks .default orderId executionId now hconn hm
        (hq ▸ lacks_default h.sound h.digits hq hcov hspp)
      obtain ⟨c, hc, -⟩ := placeOrder_of_lacks .exact orderId executionId now hconn' hm
        (hq ▸ lacks_of_not_covers h.exact.sound hcov')
      exact alike_of_refused h hb hc
  · rw [hq] at hpos
    obtain rfl : s = false := hpos
    obtain ⟨b, hb, -⟩ := placeOrder_of_lacks .default orderId executionId now hconn hm
      (hq ▸ lacks_infinite h.sound _ _)
    obtain ⟨c, hc, -⟩ := placeOrder_of_lacks .exact orderId executionId now hconn' hm
      (hq ▸ lacks_infinite h.exact.sound _ _)
    exact alike_of_refused h hb hc
  · rw [hq] at hpos
    exact hpos.elim

lemma alike_perform {call : Call} (h : Alike p e) (hsp : SparesCall e call) :
    Alike (call.perform .default p).2 (call.perform .exact e).2 ∧ AsExact p e call := by
  by_cases hcall : ∃ request orderId executionId now,
      call = .placeOrder request orderId executionId now
  · obtain ⟨request, orderId, executionId, now, rfl⟩ := hcall
    exact alike_placeOrder h hsp
  · have hne : ∀ request orderId executionId now,
        call ≠ .placeOrder request orderId executionId now :=
      fun request orderId executionId now hc => hcall ⟨request, orderId, executionId, now, hc⟩
    have hp := Call.perform_of_not_placeOrder .default h.settled hne
    have he := Call.perform_of_not_placeOrder .exact h.exact.settled hne
    refine ⟨?_, fun _ _ _ _ hc => absurd hc (hne _ _ _ _), ?_, ?_,
      fun _ _ _ _ hc => absurd hc (hne _ _ _ _)⟩
    · rw [hp, he]
      refine ⟨h.sound.setConnected _, h.settled, ⟨h.exact.sound.setConnected _, h.exact.settled,
        h.exact.equity⟩, ⟨h.digits.cash, h.digits.held⟩, ?_, h.synced.positions, h.synced.cash⟩
      change call.connects p.connected = call.connects e.connected
      rw [h.synced.connected]
    · rw [hp, he]
      exact h.synced.cash
    · rw [hp, he]
      exact h.synced.positions

end Step

lemma alike_init (accountId : Str) (now : Datetime) : Alike (init accountId now) (init accountId now) where
  sound := sound_init accountId now
  settled := (exact_init accountId now).settled
  exact := exact_init accountId now
  digits := by
    refine ⟨?_, fun _ => Format.Default.representable_zero⟩
    change Representable startingCash
    rw [show startingCash = 10 ^ 5 by norm_num [startingCash]]
    exact Format.Default.representable_ten_pow (by norm_num)
  synced := ⟨rfl, rfl, rfl⟩

/-- When the rounding spares every order of a run, each call has the effect that it has with exact
arithmetic. -/
theorem asExact_run (accountId : Str) (created : Datetime) (calls : List Call)
    (h : ∀ before call after, calls = before ++ call :: after →
      SparesCall (run .exact before (init accountId created)) call) :
    ∀ before call after, calls = before ++ call :: after →
      AsExact (run .default before (init accountId created))
        (run .exact before (init accountId created)) call := by
  have halike : ∀ before after, calls = before ++ after →
      Alike (run .default before (init accountId created))
        (run .exact before (init accountId created)) := by
    intro before
    induction before using List.reverseRecOn with
    | nil => exact fun _ _ => alike_init accountId created
    | append_singleton before call ih =>
      intro after hc
      rw [List.append_assoc] at hc
      rw [run_snoc, run_snoc]
      exact (alike_perform (ih _ hc) (h before call after hc)).1
  intro before call after hc
  exact (alike_perform (halike before _ hc) (h before call after hc)).2

namespace Rounding

def noon : Datetime := ⟨43200000000, some 0⟩

/-- `1000.0000000000000000000000000001` shares at 100 cost more than the starting cash. -/
def uncovered : OrderRequest :=
  ⟨"AAPL", .buy, .market, .finite (10000000000000000000000000000001 / 10 ^ 28), noon, none,
    validateOrder_market (by norm_num [Decimal.Positive])⟩

lemma validateOrder_small : validateOrder (.finite (5 / 2)) .market none = .ok () :=
  validateOrder_market (by norm_num [Decimal.Positive])

def small : OrderRequest :=
  ⟨"AAPL", .buy, .market, .finite (5 / 2), noon, none, validateOrder_small⟩

/-- The notional of 31 digits rounds down to the cash, and the order is filled. -/
theorem not_asExact_uncovered :
    ¬AsExact (run .default [.connect] (init "account" noon))
      (run .exact [.connect] (init "account" noon)) (.placeOrder uncovered "o1" "e1" noon) := by
  intro h
  have hdecision := h.decision uncovered "o1" "e1" noon rfl
  revert hdecision
  decide +kernel

lemma spares_small : ∀ before call after,
    [Call.connect, .placeOrder small "o1" "e1" noon] = before ++ call :: after →
      SparesCall (run .exact before (init "account" noon)) call := by
  have hdigits : ∀ n : ℤ, |n| < 10 ^ 9 → Representable n := by
    intro n hn
    have hle : |(n : ℚ)| ≤ 10 ^ 9 := by exact_mod_cast hn.le
    have := Format.Default.representable_of_digits n 0
      (hn.trans (by norm_num)) (by norm_num) (by simpa using hle)
    simpa using this
  have htenth : Representable (5 / 2) := by
    have := Format.Default.representable_of_digits 25 (-1) (by norm_num)
      (by norm_num) (by norm_num)
    norm_num at this
    exact this
  rintro (_ | ⟨c, _ | ⟨d, before⟩⟩) call after hc
  · cases hc
    exact trivial
  · cases hc
    rintro - - q hq
    obtain rfl : 5 / 2 = q := Decimal.finite.inj hq
    have hcash : (run .exact [.connect] (init "account" noon)).cash = 100000 := rfl
    have hheld : (run .exact [.connect] (init "account" noon)).held small.symbol = 0 := rfl
    simp only [small, hcash, marketPrice] at hheld ⊢
    rw [if_pos (by norm_num), hheld]
    refine ⟨?_, by rwa [zero_add], ?_⟩
    · simpa using (by norm_num : (5 / 2 * 100 : ℚ) = ((250 : ℤ) : ℚ)) ▸ hdigits 250 (by norm_num)
    · have := hdigits 99750 (by norm_num)
      norm_num at this ⊢
      exact this
  · simp at hc

/-- Two and a half shares bought under the default context. -/
theorem asExact_run_small :
    AsExact (run .default [.connect] (init "account" noon))
      (run .exact [.connect] (init "account" noon)) (.placeOrder small "o1" "e1" noon) :=
  asExact_run "account" noon [.connect, .placeOrder small "o1" "e1" noon] spares_small [.connect]
    (.placeOrder small "o1" "e1" noon) [] rfl

end Rounding

end Pentagon5.Broker
