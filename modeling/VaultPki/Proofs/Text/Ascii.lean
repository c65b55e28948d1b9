import Mathlib
import VaultPki.Text.Ascii

/-!
# The case of ASCII letters

Folding to small letters and to capitals tells the same texts apart. It leaves alone what is no
ASCII letter, so a text that is folded to letters and digits consists of letters and digits.
-/

namespace VaultPki.Text.Ascii

variable {s t : String}

theorem toList_lower (s : String) : (lower s).toList = s.toList.map Char.toLower :=
  String.toList_ofList

theorem toList_upper (s : String) : (upper s).toList = s.toList.map Char.toUpper :=
  String.toList_ofList

theorem lower_lower (s : String) : lower (lower s) = lower s := by
  rw [← String.toList_inj, toList_lower, toList_lower, List.map_map]
  apply List.map_congr_left
  intro c _
  exact Char.toLower_toLower_eq_toLower c

theorem lower_eq_self_iff : lower s = s ↔ ∀ c ∈ s.toList, c.isUpper = false := by
  have hmap : s.toList.map Char.toLower = s.toList ↔ ∀ c ∈ s.toList, c.toLower = c := by
    rw [← List.map_inj_left, List.map_id']
  rw [← String.toList_inj, toList_lower, hmap]
  refine forall₂_congr fun c _ => ⟨fun h => ?_, fun h => ?_⟩
  · rw [← h]
    exact Char.isUpper_toLower_eq_false c
  · exact Char.toLower_eq_of_not_isUpper (by simp [h])

theorem lower_upper (s : String) : lower (upper s) = lower s := by
  rw [← String.toList_inj, toList_lower, toList_upper, List.map_map, toList_lower]
  apply List.map_congr_left
  intro c _
  exact Char.toLower_toUpper_eq_toLower c

theorem upper_lower (s : String) : upper (lower s) = upper s := by
  rw [← String.toList_inj, toList_upper, toList_lower, List.map_map, toList_upper]
  apply List.map_congr_left
  intro c _
  exact Char.toUpper_toLower_eq_toUpper c

theorem upper_eq_upper_iff : upper s = upper t ↔ lower s = lower t := by
  constructor
  · intro h
    rw [← lower_upper s, h, lower_upper]
  · intro h
    rw [← upper_lower s, h, upper_lower]

theorem isAlphanum_toLower (c : Char) : c.toLower.isAlphanum = c.isAlphanum := by
  cases hc : c.isUpper with
  | false => rw [Char.toLower_eq_of_not_isUpper (by simp [hc])]
  | true =>
    have halpha : c.isAlpha = true := by rw [Char.isAlpha, hc, Bool.true_or]
    rw [Char.isAlphanum, Char.isAlphanum, Char.isAlpha_toLower_eq_isAlpha, halpha, Bool.true_or,
      Bool.true_or]

theorem all_isAlphanum_lower (s : String) :
    (lower s).toList.all Char.isAlphanum = s.toList.all Char.isAlphanum := by
  rw [toList_lower, List.all_map]
  congr 1
  funext c
  exact isAlphanum_toLower c

end VaultPki.Text.Ascii
