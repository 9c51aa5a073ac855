import Pentagon5.Interleaving.Machine
import Mathlib.Data.Bool.Basic
import Mathlib.Data.List.Count

/-!
# Items that calls put into the state and take out of it

A `Ledger` follows one item of the state. In every run the calls that took it and the item
that is still held add up to the calls that put it, so an item that is put once is taken at
most once.
-/

namespace Pentagon5.Interleaving

variable {C : Type} {R : C → Type} {E Ω σ Q A : Type}

structure Ledger (M : Machine R E Ω σ Q A) (init : σ → Prop) where
  puts : Done R E → Bool
  takes : Done R E → Bool
  held : σ → Bool
  start : ∀ s, init s → held s = false
  answer : ∀ ω s call, (takes ⟨call, (M.answer ω s call).1⟩).toNat + (held (M.answer ω s call).2).toNat =
    (held s).toNat + (puts ⟨call, (M.answer ω s call).1⟩).toNat
  environment : ∀ s s', M.environment s s' → held s' = held s

variable {M : Machine R E Ω σ Q A} {init : σ → Prop} {c : Config R E Ω σ Q A}

/-- What was put was taken or is still there. -/
theorem Ledger.balance (L : Ledger M init) (hc : Reachable M init c) :
    c.history.countP (fun e => L.takes e.done) + (L.held c.state).toNat =
      c.history.countP (fun e => L.puts e.done) := by
  induction hc with
  | start hs => simp [L.start _ hs]
  | @step c c' _ hs ih =>
    cases hs with
    | arrive i q _ => exact ih
    | perform i q call next ω _ _ =>
      have h := L.answer ω c.state call
      have hcons : ∀ b : Bool, (if b = true then 1 else 0) = b.toNat := by decide
      rw [Config.perform_history, Config.perform_state, List.countP_cons, List.countP_cons, hcons, hcons]
      dsimp only
      omega
    | environment s hs => simpa only [L.environment _ _ hs] using ih

lemma Ledger.takes_le_puts (L : Ledger M init) (hc : Reachable M init c) :
    c.history.countP (fun e => L.takes e.done) ≤ c.history.countP (fun e => L.puts e.done) := by
  rw [← L.balance hc]
  exact Nat.le_add_right _ _

/-- An element after which no earlier one satisfies `p` either is the only one. -/
lemma countP_le_one {α : Type} {p : α → Bool} {l : List α}
    (h : ∀ l₁ a l₀, l = l₁ ++ a :: l₀ → p a = true → ∀ b ∈ l₀, p b = false) : l.countP p ≤ 1 := by
  induction l with
  | nil => exact Nat.zero_le 1
  | cons a l ih =>
    rw [List.countP_cons]
    by_cases ha : p a = true
    · have hl : l.countP p = 0 := List.countP_eq_zero.mpr fun b hb => by
        simp [h [] a l rfl ha b hb]
      simp [hl, ha]
    · have := ih fun l₁ b l₀ hl => h (a :: l₁) b l₀ (by rw [hl]; rfl)
      simpa [ha] using this

end Pentagon5.Interleaving
