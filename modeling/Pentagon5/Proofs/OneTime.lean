import Pentagon5.Auth.Deployment
import Pentagon5.Auth.Tokens
import Pentagon5.Interleaving.Ledger

/-!
# One-time items

Flows, login grants and WebSocket tickets are stored under the fingerprint of a fresh token
and are taken by the call that finds them. Each of the three is a ledger, so an item is taken
at most once; it is taken before it expires, and a call that does not find it changes nothing.
-/

namespace Pentagon5.Auth

open Relational Relational.Table Interleaving PostgresAuthRepository AuthenticationService

/-- The three kinds of one-time items. -/
inductive Item where
  | flow
  | grant
  | ticket
deriving DecidableEq

namespace Item

/-- The call stored an item under `fp`. -/
def puts (fp : String) : Item → Done Answer PyError → Bool
  | flow, ⟨.putFlow fp' _ _ _, .ok _⟩ => fp' = fp
  | grant, ⟨.putLoginGrant fp' _ _, .ok _⟩ => fp' = fp
  | ticket, ⟨.putWsTicket fp' _ _ _, .ok _⟩ => fp' = fp
  | _, _ => false

/-- The call found the item under `fp` and took it. -/
def takes (fp : String) : Item → Done Answer PyError → Bool
  | flow, ⟨.consumeFlow fp' _, .ok (some _)⟩ => fp' = fp
  | grant, ⟨.consumeLoginGrant fp' _, .ok (some _)⟩ => fp' = fp
  | ticket, ⟨.consumeWsTicket fp' _ _, .ok (some _)⟩ => fp' = fp
  | _, _ => false

/-- The call looked for an item and did not find it. -/
def misses : Item → Done Answer PyError → Bool
  | flow, ⟨.consumeFlow _ _, .ok none⟩ => true
  | grant, ⟨.consumeLoginGrant _ _, .ok none⟩ => true
  | ticket, ⟨.consumeWsTicket _ _ _, .ok none⟩ => true
  | _, _ => false

/-- The clock value that a call compares the expiry of an item with. -/
def clock? : Item → Call → Option Timestamp
  | flow, .consumeFlow _ now => some now
  | grant, .consumeLoginGrant _ now => some now
  | ticket, .consumeWsTicket _ _ now => some now
  | _, _ => none

/-- The expiry that a call stores with an item. -/
def expiry? : Item → Call → Option Timestamp
  | flow, .putFlow _ _ _ expiresAt => some expiresAt
  | grant, .putLoginGrant _ _ expiresAt => some expiresAt
  | ticket, .putWsTicket _ _ _ expiresAt => some expiresAt
  | _, _ => none

def ttlSeconds (settings : AuthSettings) : Item → ℕ
  | flow => settings.flowTtlSeconds
  | grant => settings.loginGrantTtlSeconds
  | ticket => settings.wsTicketTtlSeconds

def held (fp : String) (s : Store) : Item → Bool
  | flow => (s.flows.find fun r => r.stateFingerprint = fp).isSome
  | grant => (s.grants.find fun r => r.codeFingerprint = fp).isSome
  | ticket => (s.tickets.find fun r => r.ticketFingerprint = fp).isSome

end Item

section

variable {settings : AuthSettings} {crypto : Primitives} {c : State} {d : Done Answer PyError}
  {s s' : Store} {fp : String}

lemma selects_flow (fp : String) : Selects (fun r : FlowRow => decide (r.stateFingerprint = fp)) :=
  fun _ _ ha hb => .inr ((of_decide_eq_true ha).trans (of_decide_eq_true hb).symm)

lemma selects_grant (fp : String) : Selects (fun r : GrantRow => decide (r.codeFingerprint = fp)) :=
  fun _ _ ha hb => .inr ((of_decide_eq_true ha).trans (of_decide_eq_true hb).symm)

lemma selects_ticket (fp : String) :
    Selects (fun r : TicketRow => decide (r.ticketFingerprint = fp)) :=
  fun _ _ ha hb => .inr ((of_decide_eq_true ha).trans (of_decide_eq_true hb).symm)

lemma Effect.item (h : Effect d s s') (item : Item) (fp : String) :
    (item.takes fp d).toNat + (item.held fp s').toNat =
      (item.held fp s).toNat + (item.puts fp d).toNat := by
  cases h with
  | putFlow r hi =>
    cases item with
    | flow => simpa [Item.takes, Item.held, Item.puts] using hi.find_isSome (selects_flow fp)
    | grant | ticket => exact Nat.add_comm _ _
  | consumeFlow r now _ hr =>
    cases item with
    | flow => simpa [Item.takes, Item.held, Item.puts] using hr.find_isSome (selects_flow fp)
    | grant | ticket => exact Nat.add_comm _ _
  | putLoginGrant r hi =>
    cases item with
    | grant => simpa [Item.takes, Item.held, Item.puts] using hi.find_isSome (selects_grant fp)
    | flow | ticket => exact Nat.add_comm _ _
  | consumeLoginGrant r now _ hr =>
    cases item with
    | grant => simpa [Item.takes, Item.held, Item.puts] using hr.find_isSome (selects_grant fp)
    | flow | ticket => exact Nat.add_comm _ _
  | putWsTicket r _ hi =>
    cases item with
    | ticket => simpa [Item.takes, Item.held, Item.puts] using hi.find_isSome (selects_ticket fp)
    | flow | grant => exact Nat.add_comm _ _
  | consumeWsTicket r now _ _ hr =>
    cases item with
    | ticket => simpa [Item.takes, Item.held, Item.puts] using hr.find_isSome (selects_ticket fp)
    | flow | grant => exact Nat.add_comm _ _
  | failed call e =>
    cases item <;> cases call <;> exact Nat.add_comm _ _
  | read call a hread =>
    cases item <;> cases call <;> first | exact Bool.noConfusion hread | exact Nat.add_comm _ _
  | _ => cases item <;> exact Nat.add_comm _ _

def Item.ledger (settings : AuthSettings) (crypto : Primitives) (item : Item) (fp : String) :
    Ledger (system settings crypto) Initial where
  puts := item.puts fp
  takes := item.takes fp
  held w := item.held fp w.store
  start w hw := by
    cases item <;> rw [Bool.eq_false_iff, ne_eq, Item.held, Table.find_isSome] <;> rintro ⟨r, hr, -⟩
    · exact hw.flows r hr
    · exact hw.grants r hr
    · exact hw.tickets r hr
  answer ω w call := (answer_effect ω w call).item item fp
  environment w w' hw := by
    cases item
    · simp only [Item.held, hw.flows]
    · simp only [Item.held, hw.grants]
    · simp only [Item.held, hw.tickets]

lemma Item.stores_of_puts {item : Item} (h : item.puts fp d = true) : d.call.stores fp = true := by
  obtain ⟨call, r⟩ := d
  cases item <;> cases call <;> cases r <;> first | exact h | exact Bool.noConfusion h

/-- An item is taken at most once. -/
theorem taken_once (hc : Run settings crypto c) (hideal : Ideal crypto) (item : Item) (fp : String) :
    c.history.countP (fun e => item.takes fp e.done) ≤ 1 := by
  refine ((item.ledger settings crypto fp).takes_le_puts hc).trans ?_
  refine countP_le_one fun h₁ e h₀ hsplit he e₀ he₀ => ?_
  have hlater := stored_once hc hideal hsplit (Item.stores_of_puts he) e₀ he₀
  by_contra hput
  have hput : item.puts fp e₀.done = true := by simpa [Item.ledger] using hput
  rw [Item.stores_of_puts hput] at hlater
  cases hlater

/-- The item is stored under `fp` and expires at `expiresAt`. -/
def Item.Stored (fp : String) (expiresAt : Timestamp) (s : Store) : Item → Prop
  | flow => ∃ r ∈ s.flows, r.stateFingerprint = fp ∧ r.expiresAt = expiresAt
  | grant => ∃ r ∈ s.grants, r.codeFingerprint = fp ∧ r.expiresAt = expiresAt
  | ticket => ∃ r ∈ s.tickets, r.ticketFingerprint = fp ∧ r.expiresAt = expiresAt

lemma Effect.taken (h : Effect d s s') {item : Item} (hd : item.takes fp d = true) :
    ∃ now expiresAt, item.clock? d.call = some now ∧ now < expiresAt ∧ item.Stored fp expiresAt s := by
  cases h with
  | consumeFlow r now ht hr =>
    cases item with
    | flow => exact ⟨now, r.expiresAt, rfl, ht, r, hr.old, of_decide_eq_true hd, rfl⟩
    | grant | ticket => cases hd
  | consumeLoginGrant r now ht hr =>
    cases item with
    | grant => exact ⟨now, r.expiresAt, rfl, ht, r, hr.old, of_decide_eq_true hd, rfl⟩
    | flow | ticket => cases hd
  | consumeWsTicket r now ht _ hr =>
    cases item with
    | ticket => exact ⟨now, r.expiresAt, rfl, ht, r, hr.old, of_decide_eq_true hd, rfl⟩
    | flow | grant => cases hd
  | failed call e => cases item <;> cases call <;> cases hd
  | read call a hread =>
    cases item <;> cases call <;> first | exact Bool.noConfusion hread | exact Bool.noConfusion hd
  | _ => cases item <;> cases hd

lemma stored_origin (hc : Run settings crypto c) {item : Item} {expiresAt : Timestamp}
    (h : item.Stored fp expiresAt c.state.store) :
    ∃ h₁ e h₀, c.history = h₁ ++ e :: h₀ ∧ item.puts fp e.done = true ∧
      item.expiry? e.done.call = some expiresAt := by
  cases item with
  | flow =>
    obtain ⟨r, hr, rfl, rfl⟩ := h
    obtain ⟨h₁, e, h₀, hsplit, hd⟩ := flow_origin hc hr
    exact ⟨h₁, e, h₀, hsplit, by simp [hd, Item.puts], by rw [hd]; rfl⟩
  | grant =>
    obtain ⟨r, hr, rfl, rfl⟩ := h
    obtain ⟨h₁, e, h₀, hsplit, hd⟩ := grant_origin hc hr
    exact ⟨h₁, e, h₀, hsplit, by simp [hd, Item.puts], by rw [hd]; rfl⟩
  | ticket =>
    obtain ⟨r, hr, rfl, rfl⟩ := h
    obtain ⟨h₁, e, h₀, hsplit, hd⟩ := ticket_origin hc hr
    exact ⟨h₁, e, h₀, hsplit, by simp [hd, Item.puts], by rw [hd]; rfl⟩

variable {q : Request} {t : Trace} {call : Call}

/-- The expiry of an item lies its time to live after a clock value read for it. -/
lemma issued_clock (h : CallSpec settings crypto q t call) {item : Item} {expiresAt : Timestamp}
    (he : item.expiry? call = some expiresAt) :
    ∃ issued : Timestamp, Did t .now issued ∧ expiresAt = issued + seconds (item.ttlSeconds settings) := by
  cases item with
  | flow =>
    cases call <;> cases he
    obtain ⟨-, F, -, hF, -, -, -, rfl⟩ := h
    exact ⟨F.now, hF.now, rfl⟩
  | grant =>
    cases call <;> cases he
    obtain ⟨-, L, code, sealing, -, hL, -, -, -, -, rfl⟩ := h
    exact ⟨L.now, hL.now, rfl⟩
  | ticket =>
    cases call <;> cases he
    obtain ⟨-, token, principal, ticket, now, -, -, -, -, -, hnow, -, -, rfl⟩ := h
    exact ⟨now, hnow, rfl⟩

/-- A call compares the expiry with a clock value read for it. -/
lemma consumed_clock (h : CallSpec settings crypto q t call) {item : Item} {now : Timestamp}
    (hn : item.clock? call = some now) : Did t .now now := by
  cases item with
  | flow =>
    cases call <;> cases hn
    obtain ⟨state, code, -, -, hnow⟩ := h
    exact hnow
  | grant =>
    cases call <;> cases hn
    obtain ⟨code, -, -, hnow⟩ := h
    exact hnow
  | ticket =>
    cases call <;> cases hn
    obtain ⟨ticket, -, -, -, hnow⟩ := h
    exact hnow

/-- An item was stored before it is taken, and the clock of the call that takes it is below the
clock at which it was issued plus its time to live. -/
theorem taken_in_time (hc : Run settings crypto c) {h₁ h₀ : History} {e : Entry Answer PyError Env World}
    (hsplit : c.history = h₁ ++ e :: h₀) {item : Item} (he : item.takes fp e.done = true) :
    ∃ e₀ ∈ h₀, item.puts fp e₀.done = true ∧ ∃ issued now : Timestamp,
      Did (own e₀.thread h₀) .now issued ∧
      item.expiry? e₀.done.call = some (issued + seconds (item.ttlSeconds settings)) ∧
      Did (own e.thread h₀) .now now ∧ item.clock? e.done.call = some now ∧
      now < issued + seconds (item.ttlSeconds settings) := by
  obtain ⟨P⟩ := hc.performed hsplit
  obtain ⟨now, expiresAt, hclock, hlt, hstored⟩ := (performed_effect P).taken he
  rw [← P.state] at hstored
  obtain ⟨h₂, e₀, h₃, horigin, hput, hexpiry⟩ := stored_origin P.reachable hstored
  obtain ⟨P₀⟩ := P.reachable.performed horigin
  obtain ⟨issued, hissued, rfl⟩ := issued_clock (performed_spec P₀) hexpiry
  rw [P.history] at horigin
  exact ⟨e₀, by simp [horigin], hput, issued, now, hissued.later horigin, hexpiry,
    consumed_clock (performed_spec P) hclock, hclock, hlt⟩

lemma Effect.missed (h : Effect d s s') {item : Item} (hd : item.misses d = true) : s' = s := by
  cases h with
  | failed | read | missFlow | missGrant | missTicket | keepSession | keepDevice => rfl
  | _ => cases item <;> cases hd

/-- In every run each item is taken at most once, before its time to live has passed, and a call
that does not find its item leaves the store as it is. -/
theorem one_time (hc : Run settings crypto c) (hideal : Ideal crypto) :
    (∀ (item : Item) token,
      c.history.countP (fun e => item.takes (fingerprint settings crypto token) e.done) ≤ 1) ∧
    (∀ (item : Item) fp h₁ e h₀, c.history = h₁ ++ e :: h₀ → item.takes fp e.done = true →
      ∃ e₀ ∈ h₀, item.puts fp e₀.done = true ∧ ∃ issued now : Timestamp,
        Did (own e₀.thread h₀) .now issued ∧
        item.expiry? e₀.done.call = some (issued + seconds (item.ttlSeconds settings)) ∧
        Did (own e.thread h₀) .now now ∧ item.clock? e.done.call = some now ∧
        now < issued + seconds (item.ttlSeconds settings)) ∧
    ∀ (item : Item), ∀ e ∈ c.history, item.misses e.done = true → e.after.store = e.before.store := by
  refine ⟨fun item token => taken_once hc hideal item _,
    fun item fp h₁ e h₀ hsplit he => taken_in_time hc hsplit he, fun item e he hmiss => ?_⟩
  obtain ⟨h₁, h₀, -, ⟨P⟩⟩ := hc.performed_mem he
  exact (performed_effect P).missed hmiss

end

namespace Sample

/-- The state of a completed login is sent again. -/
def replayed : State := loggedIn.serve machine 2 (.completeLogin (token 1) "code")
  [clockAt 2000000, unused]

lemma run_replayed : Sampled replayed := run_loggedIn.serve 2 _ _

end Sample

open Sample in
theorem one_time_replayed : replayed.history.countP
      (fun e => Item.flow.takes (print (token 1)) e.done) ≤ 1 ∧
    ∀ e ∈ replayed.history, Item.flow.misses e.done = true → e.after.store = e.before.store :=
  have h := one_time run_replayed ideal
  ⟨h.1 .flow (token 1), h.2.2 .flow⟩

end Pentagon5.Auth
