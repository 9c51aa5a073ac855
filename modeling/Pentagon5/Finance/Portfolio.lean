import Mathlib.Algebra.Order.Ring.Rat
import Mathlib.Logic.Function.Basic
import Mathlib.Tactic.Linarith

/-!
# Portfolios

Cash and a number held of each asset, without debts and short positions. A change of a holding is paid
for at a price, and is made only if cash and holding stay nonnegative.
-/

namespace Pentagon5.Finance

structure Portfolio (κ : Type) where
  cash : ℚ
  held : κ → ℚ

namespace Portfolio

variable {κ : Type} [DecidableEq κ] {f : Portfolio κ} {price change : ℚ} {asset : κ}

/-- The portfolio once `change` of an asset was bought, or sold where it is negative. -/
def after (f : Portfolio κ) (price : ℚ) (asset : κ) (change : ℚ) : Portfolio κ :=
  ⟨f.cash - change * price, Function.update f.held asset (f.held asset + change)⟩

def Affords (f : Portfolio κ) (price : ℚ) (asset : κ) (change : ℚ) : Prop :=
  0 ≤ f.cash - change * price ∧ 0 ≤ f.held asset + change

instance : Decidable (f.Affords price asset change) := inferInstanceAs (Decidable (_ ∧ _))

structure Solvent (f : Portfolio κ) : Prop where
  cash : 0 ≤ f.cash
  held : ∀ asset, 0 ≤ f.held asset

omit [DecidableEq κ] in
/-- Whether a purchase is made depends on the cash alone. -/
lemma Solvent.affords_purchase (h : f.Solvent) {quantity : ℚ} (hq : 0 ≤ quantity) :
    f.Affords price asset quantity ↔ quantity * price ≤ f.cash := by
  have hheld := h.held asset
  constructor
  · rintro ⟨hcash, -⟩
    linarith
  · intro hcash
    exact ⟨by linarith, by linarith⟩

omit [DecidableEq κ] in
/-- Whether a sale is made depends on the holding alone. -/
lemma Solvent.affords_sale (h : f.Solvent) (hprice : 0 ≤ price) {quantity : ℚ} (hq : 0 ≤ quantity) :
    f.Affords price asset (-quantity) ↔ quantity ≤ f.held asset := by
  have hcash := h.cash
  have hproceeds := mul_nonneg hq hprice
  constructor
  · rintro ⟨-, hheld⟩
    linarith
  · intro hheld
    exact ⟨by linarith, by linarith⟩

end Portfolio

end Pentagon5.Finance
