import Mathlib.Data.List.Nodup

/-!
# Records told apart by a key

Records are given keys that were never given before, and are copied, kept in caches and deleted. All
records ever made stay told apart by their keys (`Unambiguous.snoc`), so whoever holds a key of one of
them can only ever find that one (`Unambiguous.eq_of_mem`), however old the copy at hand is.
-/

set_option autoImplicit false

namespace ArmFaceID.Library

universe u v

variable {ρ : Type u} {κ : Type v} {key : ρ → κ} {known held : List ρ} {a b : ρ}

/-- Records known under the same key are the same. -/
def Unambiguous (key : ρ → κ) (known : List ρ) : Prop :=
  ∀ a ∈ known, ∀ b ∈ known, key a = key b → a = b

theorem unambiguous_of_nodup (h : (known.map key).Nodup) : Unambiguous key known :=
  fun _ ha _ hb hkey => List.inj_on_of_nodup_map h ha hb hkey

/-- A new record under a key that is not known. -/
theorem Unambiguous.snoc (h : Unambiguous key known) (hfresh : ∀ a ∈ known, key a ≠ key b) :
    Unambiguous key (known ++ [b]) := by
  intro a ha a' ha' hkey
  rcases List.mem_append.1 ha with ha | ha
  · rcases List.mem_append.1 ha' with ha' | ha'
    · exact h a ha a' ha' hkey
    · rw [List.mem_singleton.1 ha'] at hkey
      exact absurd hkey (hfresh a ha)
  · rcases List.mem_append.1 ha' with ha' | ha'
    · rw [List.mem_singleton.1 ha] at hkey
      exact absurd hkey.symm (hfresh a' ha')
    · rw [List.mem_singleton.1 ha, List.mem_singleton.1 ha']

/-- A record found in any collection of known ones is the one its key stands for. -/
theorem Unambiguous.eq_of_mem (h : Unambiguous key known) (hheld : ∀ c ∈ held, c ∈ known)
    (ha : a ∈ known) (hb : b ∈ held) (hkey : key b = key a) : b = a :=
  h b (hheld b hb) a ha hkey

end ArmFaceID.Library
