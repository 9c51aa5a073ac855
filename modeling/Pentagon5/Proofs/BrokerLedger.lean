import Pentagon5.Broker.Fills

/-!
# The mock broker replays its execution log

With exact arithmetic every call leaves a provider that is sound, and so the positions, the
cash and the account snapshot are functions of the list of executions.
-/

namespace Pentagon5.Broker

open Python MockBrokerProvider

namespace MockBrokerProvider

variable {p p' : MockBrokerProvider} {request : OrderRequest} {orderId executionId : Str}
  {now : Datetime} {q : ℚ}

lemma keeps_exact (side : OrderSide) (symbol : Str) (q : ℚ) : p.Keeps .exact side symbol q := by
  cases side with
  | buy => exact ⟨rfl, rfl, rfl, rfl, rfl, rfl⟩
  | sell => exact ⟨rfl, _, rfl, rfl⟩

lemma marketValue_exact {positions : List Position}
    (h : ∀ position ∈ positions, position.quantity = .finite position.quantity.toRat ∧
      0 ≤ position.quantity.toRat) (total : ℚ) :
    marketValue .exact positions (.finite total) = .ok (.finite (total +
      (positions.map fun position => position.quantity.toRat * marketPrice).sum)) := by
  induction positions generalizing total with
  | nil => simp [marketValue]
  | cons position positions ih =>
    have hq := (h position List.mem_cons_self).1
    have hstep : marketValue .exact (position :: positions) (.finite total) =
        marketValue .exact positions (.finite (total + position.quantity.toRat * marketPrice)) := by
      rw [marketValue, hq]
      rfl
    rw [hstep, ih fun a ha => h a (List.mem_cons_of_mem _ ha), List.map_cons, List.sum_cons]
    congr 2
    ring

/-- The errors of `place_order`. -/
def refusals : List BrokerError :=
  [.valueError "broker provider is disconnected",
    .notImplementedError "MockBrokerProvider supports market orders only",
    .valueError "insufficient cash", .valueError "insufficient position"]

lemma insufficient_mem (side : OrderSide) : insufficient side ∈ refusals := by
  cases side <;> simp [insufficient, refusals]

lemma lacks_of_not_covers (hs : p.Sound) {side : OrderSide} {symbol : Str}
    (h : ¬p.Covers side symbol q) : p.Lacks .exact side symbol (.finite q) := by
  cases side with
  | buy =>
    intro notional hn
    cases hn
    rw [hs.cash_eq, Decimal.finite_lt, decide_eq_true (not_le.mp h)]
  | sell =>
    intro position hget
    have hp := hs.priced symbol position hget
    rw [hp.quantity_eq, Decimal.finite_lt, decide_eq_true (not_le.mp h)]

lemma lacks_infinite (hs : p.Sound) {ctx : Context} (side : OrderSide) (symbol : Str) :
    p.Lacks ctx side symbol (.infinite false) := by
  cases side with
  | buy =>
    intro notional hn
    rw [Decimal.infinite_mul _ _ (by norm_num [marketPrice])] at hn
    rw [← Except.ok.inj hn, hs.cash_eq]
    rfl
  | sell =>
    intro position hget
    rw [(hs.priced symbol position hget).quantity_eq]
    rfl

/-- With exact arithmetic a covered market order is filled, with the equity that cash and positions
make up. -/
lemma placeOrder_covered (orderId executionId : Str) (now : Datetime) (hs : p.Sound)
    (hconn : p.connected = true) (hm : request.orderType = .market) (hq : request.quantity = .finite q)
    (hcov : p.Covers request.side request.symbol q) :
    ∃ p', placeOrder .exact request orderId executionId now p = .ok (request.order orderId now) p' ∧
      Filled p request orderId executionId now q p' ∧
      p'.account.equity = .finite (p'.cash + worth p'.positions) := by
  obtain ⟨p', hplace, hf, value, hv, he⟩ := placeOrder_of_keeps .exact orderId
    executionId now hs hconn hm hq hcov (keeps_exact _ _ _)
    (fun positions' hmoves =>
      ⟨_, _, marketValue_exact (finite_of_moves hs hmoves) 0, rfl⟩)
  refine ⟨p', hplace, hf, ?_⟩
  rw [marketValue_exact (finite_of_moves hs hf.moves) 0] at hv
  rw [← Except.ok.inj hv, hf.cash] at he
  rw [← Except.ok.inj he, hf.cash_eq, zero_add]
  rfl

/-- With exact arithmetic an order is filled, with the equity that cash and positions make up,
or one of the refusals is raised and nothing has changed. -/
lemma placeOrder_exact (request : OrderRequest) (orderId executionId : Str) (now : Datetime)
    (hs : p.Sound) :
    (∃ e ∈ refusals, placeOrder .exact request orderId executionId now p = .error e p) ∨
      ∃ q p', placeOrder .exact request orderId executionId now p =
          .ok (request.order orderId now) p' ∧
        Filled p request orderId executionId now q p' ∧
        p'.account.equity = .finite (p'.cash + worth p'.positions) := by
  by_cases hready : p.connected = true → request.orderType ≠ .market
  · obtain ⟨e, he, hplace⟩ := placeOrder_of_unready orderId executionId now hready
    refine Or.inl ⟨e, ?_, hplace .exact⟩
    rcases he with rfl | rfl <;> simp [refusals]
  · obtain ⟨hconn, hm⟩ : p.connected = true ∧ request.orderType = .market := by
      simpa using hready
    have hrefuse : p.Lacks .exact request.side request.symbol request.quantity →
        (∀ signal, request.quantity.mul .exact (.finite marketPrice) ≠ .error signal) →
        ∃ e ∈ refusals, placeOrder .exact request orderId executionId now p = .error e p := by
      intro hl hmul
      obtain ⟨e, he, rfl | ⟨signal, hsig, -⟩⟩ := placeOrder_of_lacks .exact orderId executionId now hconn hm hl
      · exact ⟨_, insufficient_mem _, he⟩
      · exact absurd hsig (hmul signal)
    have hpos := positive_of_validateOrder request.valid
    rcases hq : request.quantity with x | s | _
    · by_cases hcov : p.Covers request.side request.symbol x
      · obtain ⟨p', hfilled⟩ := placeOrder_covered orderId executionId now hs hconn hm hq hcov
        exact Or.inr ⟨x, p', hfilled⟩
      · left
        exact hrefuse (hq ▸ lacks_of_not_covers hs hcov) (by rw [hq]; rintro signal ⟨⟩)
    · rw [hq] at hpos
      obtain rfl : s = false := hpos
      left
      refine hrefuse (hq ▸ lacks_infinite hs _ _) ?_
      rw [hq, Decimal.infinite_mul _ _ (by norm_num [marketPrice])]
      rintro signal ⟨⟩
    · rw [hq] at hpos
      exact hpos.elim

/-- What a call leaves, with exact arithmetic. -/
inductive Effect (p : MockBrokerProvider) (call : Call) : MockBrokerProvider → Prop
  | same (connected : Bool) : Effect p call { p with connected := connected }
  | filled {request : OrderRequest} {orderId executionId : Str} {now : Datetime} {q : ℚ}
      {p' : MockBrokerProvider}
      (hcall : call = .placeOrder request orderId executionId now)
      (hf : Filled p request orderId executionId now q p')
      (equity : p'.account.equity = .finite (p'.cash + worth p'.positions)) : Effect p call p'

lemma effect_perform (hs : p.Sound) (h : p.Settled) (call : Call) :
    Effect p call (call.perform .exact p).2 := by
  by_cases hcall : ∃ request orderId executionId now,
      call = .placeOrder request orderId executionId now
  · obtain ⟨request, orderId, executionId, now, rfl⟩ := hcall
    rcases placeOrder_exact request orderId executionId now hs with ⟨e, -, he⟩ | ⟨q, p', he, hf, heq⟩
    · rw [Call.perform, he]
      exact .same p.connected
    · rw [Call.perform, he]
      exact .filled rfl hf heq
  · rw [Call.perform_of_not_placeOrder .exact h
      fun request orderId executionId now hc => hcall ⟨request, orderId, executionId, now, hc⟩]
    exact .same _

lemma Sound.setConnected (hs : p.Sound) (connected : Bool) :
    ({ p with connected := connected } : MockBrokerProvider).Sound where
  cash_eq := hs.cash_eq
  cash_nonneg := hs.cash_nonneg
  buyingPower := hs.buyingPower
  priced := hs.priced
  listed := hs.listed
  conserved := hs.conserved

lemma sound_init (accountId : Str) (now : Datetime) : (init accountId now).Sound where
  cash_eq := rfl
  cash_nonneg := by norm_num [cash, init, startingCash]
  buyingPower := rfl
  priced := by
    intro symbol position h
    cases h
  listed := rfl
  conserved := add_zero _

/-- What holds after every run with exact arithmetic. -/
structure Exact (p : MockBrokerProvider) : Prop where
  sound : p.Sound
  settled : p.Settled
  equity : p.account.equity = .finite (p.cash + worth p.positions)

lemma exact_init (accountId : Str) (now : Datetime) : (init accountId now).Exact where
  sound := sound_init accountId now
  settled := by
    intro orderId order h
    cases h
  equity := by rw [(sound_init accountId now).conserved]; rfl

lemma Effect.exact {call : Call} (he : Effect p call p') (hp : p.Exact) : p'.Exact := by
  cases he with
  | same connected => exact ⟨hp.sound.setConnected connected, hp.settled, hp.equity⟩
  | filled hcall hf equity => exact ⟨hf.sound hp.sound, hf.settled hp.settled, equity⟩

end MockBrokerProvider

lemma exact_run (accountId : Str) (now : Datetime) (calls : List Call) :
    (run .exact calls (init accountId now)).Exact := by
  induction calls using List.reverseRecOn with
  | nil => exact exact_init accountId now
  | append_singleton calls call ih =>
    rw [run_snoc]
    exact (effect_perform ih.sound ih.settled call).exact ih

/-- The account snapshot is up to date, and cash and positions are worth the starting cash. -/
structure Balanced (p : MockBrokerProvider) : Prop where
  cash : ∃ cash, p.account.cashBalance = .finite cash ∧ 0 ≤ cash ∧
    p.account.equity = .finite (cash +
      (p.positions.values.map fun position => position.quantity.toRat * marketPrice).sum)
  buyingPower : p.account.buyingPower = p.account.cashBalance
  equity : p.account.equity = .finite startingCash
  listed : p.account.positions = p.positions.sortedValues
  reported : p.connected = true → getPositions p = .ok p.account.positions p
  increasing : p.account.positions.Pairwise fun a b => a.symbol < b.symbol
  priced : ∀ position ∈ p.positions.values,
    position.averagePrice = .finite marketPrice ∧ ∃ q, position.quantity = .finite q ∧ 0 < q

lemma MockBrokerProvider.Exact.balanced {p : MockBrokerProvider} (hp : p.Exact) : Balanced p where
  cash := ⟨p.cash, hp.sound.cash_eq, hp.sound.cash_nonneg, hp.equity⟩
  buyingPower := hp.sound.buyingPower
  equity := by rw [hp.equity, hp.sound.conserved]
  listed := hp.sound.listed
  reported := by
    intro hconn
    rw [getPositions_of hconn, hp.sound.listed]
  increasing := by
    rw [hp.sound.listed]
    exact Dict.sortedValues_strict fun symbol position h => (hp.sound.priced symbol position h).symbol_eq
  priced := by
    intro position hv
    obtain ⟨symbol, h⟩ := Dict.mem_values.mp hv
    have hpr := hp.sound.priced symbol position h
    exact ⟨hpr.averagePrice, _, hpr.quantity_eq, hpr.positive⟩

/-- After any calls the account balances, and an order is then filled or refused for one of four
reasons; neither a check of the models nor a division fails inside `place_order`. -/
theorem balanced_run (accountId : Str) (created : Datetime) (calls : List Call) :
    Balanced (run .exact calls (init accountId created)) ∧
      ∀ request orderId executionId now,
        (∃ order p', placeOrder .exact request orderId executionId now
          (run .exact calls (init accountId created)) = .ok order p') ∨
        ∃ e ∈ refusals, placeOrder .exact request orderId executionId now
          (run .exact calls (init accountId created)) =
            .error e (run .exact calls (init accountId created)) := by
  have hp := exact_run accountId created calls
  refine ⟨hp.balanced, fun request orderId executionId now => ?_⟩
  rcases placeOrder_exact request orderId executionId now hp.sound with h | ⟨q, p', he, -⟩
  · exact Or.inr h
  · exact Or.inl ⟨_, p', he⟩

/-- The quantities that a log of executions bought or sold of a symbol. -/
def traded (side : OrderSide) (log : List Execution) (symbol : Str) : ℚ :=
  ((log.filter fun e => e.side = side ∧ e.symbol = symbol).map fun e => e.quantity.toRat).sum

def net (log : List Execution) (symbol : Str) : ℚ := traded .buy log symbol - traded .sell log symbol

def notionals (side : OrderSide) (log : List Execution) : ℚ :=
  ((log.filter fun e => e.side = side).map fun e => e.quantity.toRat * e.price.toRat).sum

/-- A stored order and the execution that filled it. -/
structure FilledBy (item : Str × Order) (e : Execution) : Prop where
  key : item.1 = e.orderId
  id : item.2.id = e.orderId
  symbol : item.2.symbol = e.symbol
  side : item.2.side = e.side
  quantity : item.2.quantity = e.quantity
  status : item.2.status = .filled

/-- The visible state is the replay of the log. -/
structure Replays (p : MockBrokerProvider) : Prop where
  finite : ∀ e ∈ p.executions, ∃ q, e.quantity = .finite q ∧ 0 < q ∧ e.price = .finite marketPrice
  paired : List.Forall₂ FilledBy p.orders.items p.executions
  nonneg : ∀ log, log <+: p.executions → ∀ symbol, 0 ≤ net log symbol
  present : ∀ symbol, (p.positions.get symbol).isSome ↔ net p.executions symbol ≠ 0
  quantity : ∀ symbol position, p.positions.get symbol = some position →
    position.quantity = .finite (net p.executions symbol)
  cash : p.account.cashBalance =
    .finite (startingCash - notionals .buy p.executions + notionals .sell p.executions)

lemma net_nil (symbol : Str) : net [] symbol = 0 := sub_self 0

lemma net_snoc (log : List Execution) (e : Execution) (symbol : Str) :
    net (log ++ [e]) symbol =
      net log symbol + if e.symbol = symbol then e.side.signed e.quantity.toRat else 0 := by
  by_cases hsym : e.symbol = symbol
  · cases hside : e.side <;>
      simp [net, traded, List.filter_append, hsym, hside, OrderSide.signed] <;> ring
  · simp [net, traded, List.filter_append, hsym]

lemma notionals_snoc (log : List Execution) (e : Execution) :
    notionals .buy (log ++ [e]) - notionals .sell (log ++ [e]) =
      notionals .buy log - notionals .sell log + e.side.signed e.quantity.toRat * e.price.toRat := by
  cases hside : e.side <;>
    simp [notionals, List.filter_append, hside, OrderSide.signed] <;> ring

/-- The invariant behind the replay: what a provider holds is what its log nets to. -/
structure Tracks (p : MockBrokerProvider) : Prop where
  finite : ∀ e ∈ p.executions, ∃ q, e.quantity = .finite q ∧ 0 < q ∧ e.price = .finite marketPrice
  paired : List.Forall₂ FilledBy p.orders.items p.executions
  nonneg : ∀ log, log <+: p.executions → ∀ symbol, 0 ≤ net log symbol
  held : ∀ symbol, p.held symbol = net p.executions symbol
  cash : p.cash = startingCash - (notionals .buy p.executions - notionals .sell p.executions)

namespace Tracks

variable {p p' : MockBrokerProvider} {request : OrderRequest} {orderId executionId : Str}
  {now : Datetime} {q : ℚ}

lemma init (accountId : Str) (now : Datetime) : Tracks (init accountId now) where
  finite := by
    intro e he
    cases he
  paired := List.Forall₂.nil
  nonneg := by
    intro log hlog symbol
    obtain rfl : log = [] := List.prefix_nil.mp hlog
    exact (net_nil symbol).ge
  held := fun symbol => (net_nil symbol).symm
  cash := by simp [MockBrokerProvider.cash, MockBrokerProvider.init, notionals]

lemma replays (ht : Tracks p) (hs : p.Sound) : Replays p where
  finite := ht.finite
  paired := ht.paired
  nonneg := ht.nonneg
  present := by
    intro symbol
    rw [← ht.held, hs.held_ne_zero_iff]
  quantity := by
    intro symbol position h
    rw [(hs.priced symbol position h).quantity_eq, ht.held]
  cash := by
    rw [hs.cash_eq, ht.cash]
    congr 1
    ring

/-- A fill with a new identifier appends to the log what it changes. -/
lemma filled (ht : Tracks p) (hs : p.Sound) (hf : Filled p request orderId executionId now q p')
    (hnew : p.orders.get orderId = none) : Tracks p' := by
  have hq : (request.execution orderId executionId now).quantity.toRat = q := by
    change request.quantity.toRat = q
    rw [hf.quantity, Decimal.toRat_finite]
  have hheld : ∀ symbol, p'.held symbol = net p'.executions symbol := by
    intro symbol
    rw [hf.executions, net_snoc, hq, ← ht.held]
    by_cases hsym : request.symbol = symbol
    · rw [if_pos (by exact hsym), ← hsym, hf.held_self]
      rfl
    · rw [if_neg (by exact hsym), add_zero, hf.held_of_ne (Ne.symm hsym)]
  constructor
  case finite =>
    intro e he
    rw [hf.executions, List.mem_append, List.mem_singleton] at he
    rcases he with he | rfl
    · exact ht.finite e he
    · exact ⟨q, hf.quantity, hf.positive, rfl⟩
  case paired =>
    rw [hf.orders, Dict.items_set_of_new _ hnew, hf.executions]
    exact List.rel_append ht.paired (List.Forall₂.cons ⟨rfl, rfl, rfl, rfl, rfl, rfl⟩ List.Forall₂.nil)
  case nonneg =>
    intro log hlog symbol
    rw [hf.executions, List.prefix_concat_iff] at hlog
    rcases hlog with rfl | hlog
    · rw [← hf.executions, ← hheld]
      exact (hf.sound hs).held_nonneg symbol
    · exact ht.nonneg log hlog symbol
  case held => exact hheld
  case cash =>
    rw [hf.executions, notionals_snoc, hf.cash_eq, ht.cash, hq]
    simp only [OrderRequest.execution, Decimal.toRat_finite]
    ring

end Tracks

section Fresh

variable {p p' : MockBrokerProvider} {calls before after : List Call} {call : Call}

/-- Every stored order was drawn by some call. -/
def Drawn (calls : List Call) (p : MockBrokerProvider) : Prop :=
  ∀ orderId order, p.orders.get orderId = some order → orderId ∈ calls.flatMap Call.draws

lemma Fresh.init (h : Fresh (calls ++ [call])) : Fresh calls := by
  rw [Fresh, List.flatMap_append] at h
  exact h.of_append_left

lemma Fresh.new {request : OrderRequest} {orderId executionId : Str} {now : Datetime}
    (h : Fresh (calls ++ [.placeOrder request orderId executionId now])) (hd : Drawn calls p) :
    p.orders.get orderId = none := by
  rw [Fresh, List.flatMap_append, List.nodup_append] at h
  rcases ho : p.orders.get orderId with _ | order
  · rfl
  · exact absurd rfl (h.2.2 orderId (hd orderId order ho) orderId (by simp [Call.draws]))

lemma Drawn.perform (hd : Drawn calls p) (he : Effect p call p') : Drawn (calls ++ [call]) p' := by
  intro orderId order ho
  rw [List.flatMap_append, List.mem_append]
  cases he with
  | same connected => exact Or.inl (hd orderId order ho)
  | @filled request orderId' executionId now q p' hcall hf equity =>
    rw [hf.orders] at ho
    by_cases hid : orderId = orderId'
    · exact Or.inr (by simp [hcall, Call.draws, hid])
    · rw [Dict.get_set_of_ne _ _ hid] at ho
      exact Or.inl (hd orderId order ho)

lemma tracks_run (accountId : Str) (created : Datetime) (h : Fresh calls) :
    Tracks (run .exact calls (init accountId created)) ∧
      Drawn calls (run .exact calls (init accountId created)) := by
  induction calls using List.reverseRecOn with
  | nil =>
    refine ⟨Tracks.init accountId created, ?_⟩
    intro orderId order ho
    cases ho
  | append_singleton calls call ih =>
    obtain ⟨ht, hd⟩ := ih h.init
    have hp := exact_run accountId created calls
    have he := effect_perform hp.sound hp.settled call
    rw [run_snoc]
    refine ⟨?_, hd.perform he⟩
    generalize (call.perform .exact (run .exact calls (init accountId created))).2 = p' at he
    cases he with
    | same connected => exact ⟨ht.finite, ht.paired, ht.nonneg, ht.held, ht.cash⟩
    | filled hcall hf equity =>
      subst hcall
      exact ht.filled hp.sound hf (h.new hd)

/-- Later calls leave a stored order as it is. -/
lemma order_kept (accountId : Str) (created : Datetime) (h : Fresh (before ++ after))
    {orderId : Str} {order : Order}
    (ho : (run .exact before (init accountId created)).orders.get orderId = some order) :
    (run .exact (before ++ after) (init accountId created)).orders.get orderId = some order := by
  induction after using List.reverseRecOn with
  | nil => rwa [List.append_nil]
  | append_singleton after call ih =>
    rw [← List.append_assoc] at h ⊢
    have hkept := ih h.init
    have hp := exact_run accountId created (before ++ after)
    have he := effect_perform hp.sound hp.settled call
    rw [run_snoc]
    generalize (call.perform .exact (run .exact (before ++ after) (init accountId created))).2 = p'
      at he
    cases he with
    | same connected => exact hkept
    | @filled request orderId' executionId now q p' hcall hf equity =>
      subst hcall
      have hnew := h.new (tracks_run accountId created h.init).2
      have hid : orderId ≠ orderId' := by
        rintro rfl
        rw [hnew] at hkept
        cases hkept
      rw [hf.orders, Dict.get_set_of_ne _ _ hid]
      exact hkept

end Fresh

/-- For fresh identifiers the visible state is the replay of the log after any calls, and every
order that is stored at some moment is filled and stays as it is. -/
theorem replays_run (accountId : Str) (created : Datetime) (calls : List Call) (h : Fresh calls) :
    Replays (run .exact calls (init accountId created)) ∧
      ∀ before after, calls = before ++ after → ∀ orderId order,
        (run .exact before (init accountId created)).orders.get orderId = some order →
        order.status = .filled ∧
          (run .exact calls (init accountId created)).orders.get orderId = some order := by
  have ht := (tracks_run accountId created h).1
  refine ⟨ht.replays (exact_run accountId created calls).sound, ?_⟩
  rintro before after rfl orderId order ho
  exact ⟨(exact_run accountId created before).settled orderId order ho,
    order_kept accountId created h ho⟩

namespace Roundtrip

def noon : Datetime := ⟨43200000000, some 0⟩

def buy : OrderRequest :=
  ⟨"AAPL", .buy, .market, .finite 10, noon, none, validateOrder_market (by norm_num [Decimal.Positive])⟩

def sell : OrderRequest :=
  ⟨"AAPL", .sell, .market, .finite (5 / 2), noon, none,
    validateOrder_market (by norm_num [Decimal.Positive])⟩

/-- A purchase, a partial sale, a sale that is too large and the cancellation of a filled order. -/
def calls : List Call :=
  [.connect, .placeOrder buy "o1" "e1" noon, .placeOrder sell "o2" "e2" noon,
    .placeOrder { buy with side := .sell } "o3" "e3" noon, .cancelOrder "o1" noon]

lemma fresh : Fresh calls := by
  unfold Fresh
  decide

theorem replays_run_roundtrip :
    (run .exact calls (init "account" noon)).executions.length = 2 ∧
      Replays (run .exact calls (init "account" noon)) :=
  ⟨by decide +kernel, (replays_run "account" noon calls fresh).1⟩

end Roundtrip

end Pentagon5.Broker
