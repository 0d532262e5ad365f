import Mathlib.Logic.Function.Basic

/-!
# Objects that own a name in a registry

Adding under a name that is in use replaces what was registered there, and handles to it become
invalid. Objects are constructed with a handle and keep it until they are destroyed; destruction
does not remove the name. All objects stay valid exactly as long as no object is constructed under
the name of another one that is still held.
-/

set_option autoImplicit false

namespace ArmFaceID.Library

universe u v

variable {κ : Type u} {ν : Type v}

/-- A handle to the registration with that number. -/
structure Handle (ν : Type v) where
  name : ν
  number : Nat
  deriving DecidableEq

/-- What is registered under each name; registrations are numbered. -/
structure Registry (ν : Type v) where
  registered : ν → Option Nat
  issued : Nat
  lt_issued : ∀ name number, registered name = some number → number < issued

namespace Registry

def empty : Registry ν := ⟨fun _ => none, 0, fun _ _ h => nomatch h⟩

/-- What the handle refers to is still registered under its name. -/
def Owns (r : Registry ν) (handle : Handle ν) : Prop :=
  r.registered handle.name = some handle.number

variable [DecidableEq ν]

/-- One more registration, which replaces an earlier one of that name. -/
def add (r : Registry ν) (name : ν) : Registry ν where
  registered := Function.update r.registered name (some r.issued)
  issued := r.issued + 1
  lt_issued := by
    intro other number h
    by_cases hsame : other = name
    · subst hsame
      rw [Function.update_self] at h
      cases h
      exact Nat.lt_succ_self _
    · rw [Function.update_of_ne hsame] at h
      exact Nat.lt_succ_of_lt (r.lt_issued other number h)

variable {r : Registry ν} {handle : Handle ν} {name : ν}

theorem owns_add_self : (r.add name).Owns ⟨name, r.issued⟩ := Function.update_self _ _ _

theorem owns_add_of_ne (h : handle.name ≠ name) : (r.add name).Owns handle ↔ r.Owns handle := by
  simp only [Owns, add, Function.update_of_ne h]

/-- The earlier owner of the name is pulled away. -/
theorem not_owns_add (howns : r.Owns handle) (hname : handle.name = name) :
    ¬ (r.add name).Owns handle := by
  subst hname
  intro hafter
  -- the number now registered is new, and the handle's is not
  have hlt := r.lt_issued _ _ howns
  simp only [Owns, add, Function.update_self] at hafter
  have hnumber : r.issued = handle.number := Option.some.inj hafter
  omega

end Registry

/-- A registry and the objects with their handles, each under the key of what keeps it. -/
structure Objects (κ : Type u) (ν : Type v) where
  registry : Registry ν := .empty
  held : κ → Option (Handle ν) := fun _ => none

namespace Objects

/-- Every object still owns what is registered under its name. -/
def Valid (s : Objects κ ν) : Prop :=
  ∀ key handle, s.held key = some handle → s.registry.Owns handle

/-- No object has that name. -/
def NameFree (s : Objects κ ν) (name : ν) : Prop :=
  ∀ key handle, s.held key = some handle → handle.name ≠ name

variable {s : Objects κ ν} {key : κ} {name other : ν}

section Names

variable [DecidableEq ν]

/-- A registration that no object keeps. -/
def addName (s : Objects κ ν) (name : ν) : Objects κ ν :=
  { s with registry := s.registry.add name }

theorem Valid.addName (hvalid : s.Valid) (hfree : s.NameFree name) : (s.addName name).Valid := by
  intro k handle hk
  exact (Registry.owns_add_of_ne (hfree k handle hk)).2 (hvalid k handle hk)

end Names

section Keys

variable [DecidableEq κ]

/-- The object goes; its name stays registered. -/
def destroy (s : Objects κ ν) (key : κ) : Objects κ ν :=
  { s with held := Function.update s.held key none }

theorem held_destroy {k : κ} {handle : Handle ν} (h : (s.destroy key).held k = some handle) :
    s.held k = some handle := by
  by_cases hsame : k = key
  · subst hsame
    simp only [destroy, Function.update_self] at h
    cases h
  · simpa only [destroy, Function.update_of_ne hsame] using h

theorem Valid.destroy (hvalid : s.Valid) : (s.destroy key).Valid := by
  intro k handle hk
  exact hvalid k handle (held_destroy hk)

theorem NameFree.destroy (hfree : s.NameFree other) : (s.destroy key).NameFree other := by
  intro k handle hk
  exact hfree k handle (held_destroy hk)

end Keys

variable [DecidableEq κ] [DecidableEq ν]

/-- A new object, registered under its name. -/
def construct (s : Objects κ ν) (key : κ) (name : ν) : Objects κ ν where
  registry := s.registry.add name
  held := Function.update s.held key (some ⟨name, s.registry.issued⟩)

theorem held_construct {k : κ} {handle : Handle ν}
    (h : (s.construct key name).held k = some handle) :
    handle = ⟨name, s.registry.issued⟩ ∨ s.held k = some handle := by
  by_cases hsame : k = key
  · subst hsame
    simp only [construct, Function.update_self] at h
    exact Or.inl (Option.some.inj h).symm
  · simp only [construct, Function.update_of_ne hsame] at h
    exact Or.inr h

theorem Valid.construct (hvalid : s.Valid) (hfree : s.NameFree name) :
    (s.construct key name).Valid := by
  intro k handle hk
  rcases held_construct hk with rfl | hold
  · exact Registry.owns_add_self
  · exact hvalid.addName hfree k handle hold

theorem NameFree.construct (hfree : s.NameFree other) (hne : name ≠ other) :
    (s.construct key name).NameFree other := by
  intro k handle hk
  rcases held_construct hk with rfl | hold
  · exact hne
  · exact hfree k handle hold

/-- A new object pulls the registration away from another one that has its name. -/
theorem not_valid_construct (hvalid : s.Valid) (hkey : s.held key = none)
    (hname : ¬ s.NameFree name) : ¬ (s.construct key name).Valid := by
  intro hafter
  apply hname
  intro k handle hk hsame
  -- the other object is not the one constructed, whose key was not in use
  have hne : k ≠ key := by
    rintro rfl
    rw [hkey] at hk
    cases hk
  have hkept : (s.construct key name).held k = some handle := by
    simpa only [Objects.construct, Function.update_of_ne hne] using hk
  exact Registry.not_owns_add (hvalid k handle hk) hsame (hafter k handle hkept)

end Objects

end ArmFaceID.Library
