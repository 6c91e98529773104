/-
  HomeAutomation.Proofs.Rule.Limits

  What the commands of rules can be.  A rule that is read sets nothing on its
  device but what is within limits: an air conditioner to a finite temperature
  in the range, a light to a brightness from 0 to 100, and a fan to neither.
-/

import HomeAutomation.Device.Params
import HomeAutomation.Proofs.Number.Truncation
import HomeAutomation.Proofs.Rule.Grammar

namespace HomeAutomation.ActionSpec

/-- A state is one that an action may command.  It has the power of the action; a temperature only
    for an air conditioner, finite and in the range, and a brightness only for a light, from 0
    to 100. -/
def Admits (range : SetPointRange) (a : ActionSpec) (state : DeviceState) : Prop :=
  state.power = a.power ∧
    match a.device with
    | .ac => (∀ t, state.temperature = some t → t.isFinite = true ∧ range.contains t = true) ∧
        state.brightness = none
    | .light => state.temperature = none ∧
        ∀ level, state.brightness = some level → 0 ≤ level ∧ level ≤ 100
    | .fan => state.temperature = none ∧ state.brightness = none

/-- A percentage is from 0 to 100. -/
theorem Percentage.between {word : String} {level : Int} (h : Percentage word level) :
    0 ≤ level ∧ level ≤ 100 := by
  obtain ⟨_, value, -, -, low, high, whole⟩ := h
  have top : (100 : Double).truncate? = some 100 := by decide +kernel
  exact Double.truncate?_between low high whole top

/-- A brightness is a percentage. -/
theorem Dealt.brightness_between {parameters : List String} {a : ActionSpec}
    (dealt : a.Dealt parameters) {level : Int} (h : a.brightness = some level) :
    0 ≤ level ∧ level ≤ 100 := by
  have related := dealt.brightness
  rw [h] at related
  generalize levelWord? a.device parameters = word? at related
  cases related with
  | some percentage => exact percentage.between

/-- A temperature is finite. -/
theorem Dealt.isFinite_temperature {parameters : List String} {a : ActionSpec}
    (dealt : a.Dealt parameters) {t : Double} (h : a.temperature = some t) :
    t.isFinite = true := by
  rw [dealt.temperature] at h
  obtain ⟨word, -, number⟩ := List.exists_of_findSome?_eq_some h
  exact (finiteNumber?_eq_some_iff.1 number).2

/-- What a command sets on its device is within limits. -/
theorem Written.admits {range : SetPointRange} {given : String} {ws : List String} {p : Nat}
    {a : ActionSpec} (written : a.Written range given ws p) :
    a.Admits range ((DeviceParams.ofSpec a).desiredState a.power) := by
  unfold Admits DeviceParams.ofSpec
  cases device : a.device with
  | ac =>
    refine ⟨rfl, fun t heat => ?_, rfl⟩
    exact ⟨written.dealt.isFinite_temperature heat, written.range t device heat⟩
  | light => exact ⟨rfl, rfl, fun level bright => written.dealt.brightness_between bright⟩
  | fan => exact ⟨rfl, rfl, rfl⟩

end HomeAutomation.ActionSpec
