import Mathlib.Data.List.AList

/-! Finite maps with the vocabulary of an unordered map: `find`, `tryEmplace`,
assignment through the subscript operator, and `erase`. Iteration visits the
entries of the underlying association list. -/

namespace FixProxy

abbrev Map (κ : Type u) (ν : Type v) := AList (fun _ : κ => ν)

namespace Map
variable {κ : Type u} {ν : Type v} [DecidableEq κ]

def find (map : Map κ ν) (key : κ) : Option ν := AList.lookup key map

/-- Subscript assignment: insert or overwrite. -/
def assign (map : Map κ ν) (key : κ) (value : ν) : Map κ ν := AList.insert key value map

/-- Insert only when the key is absent; an older entry is silently kept. -/
def tryEmplace (map : Map κ ν) (key : κ) (value : ν) : Map κ ν :=
  if (map.find key).isSome then map else map.assign key value

def erase (map : Map κ ν) (key : κ) : Map κ ν := AList.erase key map

def update (map : Map κ ν) (key : κ) (change : ν → ν) : Map κ ν :=
  match map.find key with
  | some value => map.assign key (change value)
  | none => map

def toList (map : Map κ ν) : List (κ × ν) := map.entries.map fun entry => (entry.1, entry.2)

@[simp] theorem find_empty (key : κ) : find (∅ : Map κ ν) key = none := AList.lookup_empty key

@[simp] theorem find_assign (map : Map κ ν) (key other : κ) (value : ν) :
    (map.assign key value).find other = if other = key then some value else map.find other := by
  by_cases same : other = key
  · subst other
    simp [find, assign]
  · simp [find, assign, same, AList.lookup_insert_ne same]

@[simp] theorem find_erase (map : Map κ ν) (key other : κ) :
    (map.erase key).find other = if other = key then none else map.find other := by
  by_cases same : other = key
  · subst other
    simp [find, erase]
  · simp [find, erase, same, AList.lookup_erase_ne same]

@[simp] theorem find_tryEmplace (map : Map κ ν) (key other : κ) (value : ν) :
    (map.tryEmplace key value).find other =
      if other = key then some ((map.find key).getD value) else map.find other := by
  unfold tryEmplace
  cases held : map.find key with
  | none => simp
  | some old =>
    by_cases same : other = key
    · subst other
      simp [held]
    · simp [same]

@[simp] theorem find_update (map : Map κ ν) (key other : κ) (change : ν → ν) :
    (map.update key change).find other =
      if other = key then (map.find key).map change else map.find other := by
  unfold update
  cases held : map.find key with
  | none =>
    by_cases same : other = key
    · subst other
      simp [held]
    · simp [same]
  | some old => simp

theorem mem_toList {map : Map κ ν} {key : κ} {value : ν} :
    (key, value) ∈ map.toList ↔ map.find key = some value := by
  have entry : (⟨key, value⟩ : Sigma fun _ : κ => ν) ∈ map.entries ↔ map.find key = some value :=
    AList.mem_lookup_iff.symm
  rw [← entry]
  simp only [toList, List.mem_map, Prod.mk.injEq]
  constructor
  · rintro ⟨⟨_, _⟩, member, rfl, rfl⟩
    exact member
  · intro member
    exact ⟨_, member, rfl, rfl⟩

theorem isEmpty_toList {map : Map κ ν} : map.toList.isEmpty ↔ ∀ key, map.find key = none := by
  rw [List.isEmpty_iff, List.eq_nil_iff_forall_not_mem]
  constructor
  · intro empty key
    cases held : map.find key with
    | none => rfl
    | some value => exact absurd (mem_toList.mpr held) (empty _)
  · rintro empty ⟨key, value⟩ member
    rw [mem_toList, empty key] at member
    cases member

theorem mem_keys {map : Map κ ν} {key : κ} : key ∈ map.keys ↔ (map.find key).isSome :=
  AList.lookup_isSome.symm

end Map
end FixProxy
