import Collateral.Desk.Queries
import Collateral.Proofs.Outcome
import Collateral.Settings.Document

/-!
Contract: what checked settings promise to the calculations that use them.

A check succeeds exactly when every setting is within its range. The flat haircuts that stand in for
a broker's own are therefore never refused, and a desk always has terms.

Owns: what is read and then checked, the ranges behind a successful check, and the terms of a desk
with checked settings.
-/

namespace Collateral

theorem require_ok {within : Bool} {setting : Ranged} {value : String} :
    require within setting value = .ok () ↔ within = true := by
  cases within <;> simp [require]

theorem require_bind_ok {within : Bool} {setting : Ranged} {value : String}
    {rest : Unit → Except OutOfRange Unit} :
    require within setting value >>= rest = .ok () ↔ within = true ∧ rest () = .ok () := by
  cases within <;> simp [require, bind, Except.bind]

section Checked

variable {α : Type} {reader : Document.Reader α} {check : α → Except OutOfRange Unit}
  {text : String} {settings : α}

/-- What a text gives has been read and has passed the check. -/
theorem readChecked_ok :
    readChecked reader check text = .ok settings ↔
      Document.read reader text = .ok settings ∧ check settings = .ok () := by
  unfold readChecked
  cases Document.read reader text with
  | error fault => simp
  | ok found =>
    simp only [Except.ok.injEq]
    constructor
    · intro accepted
      split at accepted
      next => cases accepted
      next checked =>
        obtain rfl := Except.ok.inj accepted
        exact ⟨rfl, checked⟩
    · rintro ⟨rfl, checked⟩
      rw [checked]

/-- A text is out of range only where it has been read. -/
theorem readChecked_outOfRange {error : OutOfRange} :
    readChecked reader check text = .error (.outOfRange error) ↔
      ∃ settings, Document.read reader text = .ok settings ∧ check settings = .error error := by
  unfold readChecked
  cases Document.read reader text with
  | error fault => simp
  | ok found => cases checked : check found <;> simp [checked]

end Checked

/-- Every setting is within its range. -/
structure Settings.WithinRanges (settings : Settings) : Prop where
  multiplier_pos : 0 < settings.multiplier.value
  days_pos : 0 < settings.daysToProject
  minimumTarget_finite : Binary.isFinite settings.minimumTarget = true
  recommendedTarget_finite : Binary.isFinite settings.recommendedTarget = true
  depositLevel_finite : Binary.isFinite settings.depositLevel = true
  defaultHaircut_nonneg : 0 ≤ settings.defaultHaircut.value
  tolerance_pos : 0 < settings.search.tolerance.value
  maxIterations_pos : 0 < settings.search.maxIterations

/-- A check succeeds on settings within their ranges, and on no others. -/
theorem Settings.check_ok {settings : Settings} :
    settings.check = .ok () ↔ settings.WithinRanges := by
  simp only [check, require_bind_ok, require_ok, decide_eq_true_eq]
  constructor
  · rintro ⟨multiplier, days, minimum, recommended, level, haircut, tolerance, iterations⟩
    exact ⟨multiplier, days, minimum, recommended, level, haircut, tolerance, iterations⟩
  · rintro ⟨multiplier, days, minimum, recommended, level, haircut, tolerance, iterations⟩
    exact ⟨multiplier, days, minimum, recommended, level, haircut, tolerance, iterations⟩

/-- A default that is not below zero makes flat haircuts. -/
theorem Haircuts.exists_flat (broker : BrokerId) {default : Figure} (nonneg : 0 ≤ default.value) :
    ∃ haircuts, flat broker default = .ok haircuts := by
  have notNegative : ¬default.value < 0 := Rat.not_lt.2 nonneg
  unfold flat
  rw [dif_neg notNegative]
  exact ⟨_, rfl⟩

namespace Desk

/-- The haircuts that a broker publishes, or the flat ones of the settings where it has none. -/
def CountsHaircuts (desk : Desk) (broker : BrokerAccount) (haircuts : Haircuts) : Prop :=
  desk.store.haircuts? broker.broker = some haircuts ∨
    desk.store.haircuts? broker.broker = none ∧
      Haircuts.flat broker.broker desk.settings.defaultHaircut = .ok haircuts

theorem haircuts_ok {desk : Desk} {broker : BrokerAccount} {haircuts : Haircuts} :
    desk.haircuts broker = .ok haircuts ↔ desk.CountsHaircuts broker haircuts := by
  unfold Desk.haircuts CountsHaircuts
  cases desk.store.haircuts? broker.broker <;> simp

/-- Under checked settings there are haircuts for every broker account. -/
theorem exists_haircuts {desk : Desk} (checked : desk.settings.check = .ok ())
    (broker : BrokerAccount) : ∃ haircuts, desk.haircuts broker = .ok haircuts := by
  unfold Desk.haircuts
  cases desk.store.haircuts? broker.broker with
  | none =>
    apply Haircuts.exists_flat
    exact (Settings.check_ok.1 checked).defaultHaircut_nonneg
  | some published => exact ⟨published, rfl⟩

/-- Haircuts are all that the terms of a desk can lack. -/
theorem terms_of_haircuts [Rounding] {desk : Desk} (company : Company) {broker : BrokerAccount}
    {haircuts : Haircuts} (found : desk.haircuts broker = .ok haircuts) :
    desk.terms company broker =
      .ok ⟨company.currency, desk.store.spot.quotes, haircuts, desk.multiplier⟩ := by
  rw [terms, found]
  rfl

end Desk

end Collateral
