import FixProxy.Lib.Map
import Mathlib.Data.List.Perm.Basic

/-! Tables that are gathered from entries, where the first entry of a key stays. Which one is the
first may be left open: for a table that is gathered in any order, what a key may get is what its
entries say, and the table is settled when the entries of each key agree. -/

namespace FixProxy
namespace Map
variable {α : Type w} {κ : Type u} {ν : Type v} [DecidableEq κ] {item : α → κ × ν} {entries : List α} {key : κ} {value : ν}

def gather (item : α → κ × ν) (entries : List α) : Map κ ν :=
  entries.foldl (fun table entry => table.tryEmplace (item entry).1 (item entry).2) ∅

private theorem find_foldl (item : α → κ × ν) (entries : List α) (table : Map κ ν) (key : κ) :
    (entries.foldl (fun table entry => table.tryEmplace (item entry).1 (item entry).2) table).find key =
      (table.find key).or ((entries.map item).lookup key) := by
  induction entries generalizing table with
  | nil => simp
  | cons entry rest ih =>
    simp only [List.foldl_cons, ih, find_tryEmplace, List.map_cons]
    obtain ⟨first, value⟩ := item entry
    by_cases same : key = first
    · subst same
      cases table.find key <;> simp
    · have other : (key == first) = false := beq_false_of_ne same
      simp [same, List.lookup_cons, other]

/-- The first entry of a key counts. -/
theorem find_gather (item : α → κ × ν) (entries : List α) (key : κ) :
    (gather item entries).find key = (entries.map item).lookup key :=
  (find_foldl item entries ∅ key).trans (by simp)

theorem mem_of_gather (found : (gather item entries).find key = some value) : ∃ entry ∈ entries, item entry = (key, value) := by
  rw [find_gather, List.lookup_eq_some_iff] at found
  obtain ⟨earlier, later, whole, -⟩ := found
  apply List.mem_map.mp
  rw [whole]
  simp

/-- Any entry of a key can be the first. -/
theorem gather_iff : (∃ order : List α, order.Perm entries ∧ (gather item order).find key = some value) ↔
    ∃ entry ∈ entries, item entry = (key, value) := by
  constructor
  · intro gathered
    obtain ⟨order, perm, found⟩ := gathered
    obtain ⟨entry, member, same⟩ := mem_of_gather found
    exact ⟨entry, perm.subset member, same⟩
  · intro stated
    obtain ⟨entry, member, same⟩ := stated
    obtain ⟨earlier, later, rfl⟩ := List.append_of_mem member
    refine ⟨entry :: (earlier ++ later), List.perm_middle.symm, ?_⟩
    rw [find_gather, List.map_cons, same]
    exact List.lookup_cons_self

theorem gather_eq_none_iff : (gather item entries).find key = none ↔ ∀ entry ∈ entries, (item entry).1 ≠ key := by
  rw [find_gather, List.lookup_eq_none_iff]
  constructor
  · intro absent entry member same
    have different := absent (item entry) (List.mem_map_of_mem member)
    simp [same] at different
  · intro absent pair member
    obtain ⟨entry, among, rfl⟩ := List.mem_map.mp member
    simpa using (absent entry among).symm

/-- The order does not matter for a key whose entries agree, and only then. -/
theorem gather_settled_iff :
    (∀ order order' : List α, order.Perm entries → order'.Perm entries →
      (gather item order).find key = (gather item order').find key) ↔
    ∀ entry ∈ entries, ∀ entry' ∈ entries, (item entry).1 = key → (item entry').1 = key →
      (item entry).2 = (item entry').2 := by
  constructor
  · intro settled entry member entry' member' same same'
    have here : ∃ other ∈ entries, item other = (key, (item entry).2) := ⟨entry, member, Prod.ext same rfl⟩
    have there : ∃ other ∈ entries, item other = (key, (item entry').2) := ⟨entry', member', Prod.ext same' rfl⟩
    obtain ⟨order, perm, found⟩ := gather_iff.mpr here
    obtain ⟨order', perm', found'⟩ := gather_iff.mpr there
    have equal := settled order order' perm perm'
    rw [found, found'] at equal
    exact Option.some.inj equal
  · intro agree order order' perm perm'
    cases found : (gather item order).find key with
    | none =>
      have absent := gather_eq_none_iff.mp found
      refine (gather_eq_none_iff.mpr fun entry member => ?_).symm
      exact absent entry (perm.symm.subset (perm'.subset member))
    | some value =>
      obtain ⟨entry, member, same⟩ := mem_of_gather found
      cases found' : (gather item order').find key with
      | none =>
        have absent := gather_eq_none_iff.mp found' entry (perm'.symm.subset (perm.subset member))
        exact absurd (congrArg Prod.fst same) absent
      | some value' =>
        obtain ⟨entry', member', same'⟩ := mem_of_gather found'
        have equal := agree entry (perm.subset member) entry' (perm'.subset member') (congrArg Prod.fst same)
          (congrArg Prod.fst same')
        rw [same, same'] at equal
        exact congrArg some equal

end Map
end FixProxy
