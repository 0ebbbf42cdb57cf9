import FixProxy.Lib.Run
import Mathlib.Logic.Function.Basic

/-! Tables that are kept by writes. For each key the last write decides, so a table that only
some events of a system write to is told by the history of these events alone. -/

namespace FixProxy

/-- A write to one key of a table: its value, or that it has none. -/
structure Write (κ : Type u) (ν : Type v) where
  key : κ
  value : Option ν
  deriving DecidableEq

namespace Journal
variable {κ : Type u} {ν : Type v} [DecidableEq κ] {table : κ → Option ν} {earlier later journal : List (Write κ ν)}
  {write : Write κ ν} {key : κ}

def apply (table : κ → Option ν) (write : Write κ ν) : κ → Option ν := Function.update table write.key write.value

def replay (table : κ → Option ν) (journal : List (Write κ ν)) : κ → Option ν := journal.foldl apply table

theorem replay_append (table : κ → Option ν) (earlier later : List (Write κ ν)) :
    replay table (earlier ++ later) = replay (replay table earlier) later := List.foldl_append ..

theorem replay_unwritten (unwritten : ∀ write ∈ journal, write.key ≠ key) : replay table journal key = table key := by
  induction journal generalizing table with
  | nil => rfl
  | cons write rest ih =>
    have kept : replay (apply table write) rest key = apply table write key :=
      ih fun other member => unwritten other (List.mem_cons_of_mem _ member)
    exact kept.trans (Function.update_of_ne (unwritten write (List.mem_cons_self ..)).symm ..)

/-- The last write to a key decides. -/
theorem replay_last (unwritten : ∀ other ∈ later, other.key ≠ write.key) :
    replay table (earlier ++ write :: later) write.key = write.value := by
  rw [replay_append]
  exact (replay_unwritten unwritten).trans (Function.update_self ..)

/-- A key is written to, and there is a last time, or it never is. -/
theorem last_write (journal : List (Write κ ν)) (key : κ) :
    (∃ earlier write later, journal = earlier ++ write :: later ∧ write.key = key ∧ ∀ other ∈ later, other.key ≠ key) ∨
      ∀ write ∈ journal, write.key ≠ key := by
  induction journal using List.reverseRecOn with
  | nil => exact Or.inr (by simp)
  | append_singleton journal write ih =>
    by_cases same : write.key = key
    · exact Or.inl ⟨journal, write, [], rfl, same, by simp⟩
    · rcases ih with ⟨earlier, last, later, rfl, found, unwritten⟩ | unwritten
      · refine Or.inl ⟨earlier, last, later ++ [write], by simp, found, fun other member => ?_⟩
        rcases List.mem_append.mp member with old | new
        · exact unwritten other old
        · exact List.mem_singleton.mp new ▸ same
      · refine Or.inr fun other member => ?_
        rcases List.mem_append.mp member with old | new
        · exact unwritten other old
        · exact List.mem_singleton.mp new ▸ same

/-- A key has a value if its last write gives it, or if it has had it from the start. -/
theorem replay_eq_iff {value : Option ν} : replay table journal key = value ↔
    (∃ earlier later, journal = earlier ++ ⟨key, value⟩ :: later ∧ ∀ other ∈ later, other.key ≠ key) ∨
      (∀ write ∈ journal, write.key ≠ key) ∧ table key = value := by
  constructor
  · intro replayed
    rcases last_write journal key with ⟨earlier, write, later, rfl, rfl, unwritten⟩ | unwritten
    · rw [replay_last unwritten] at replayed
      exact Or.inl ⟨earlier, later, by rw [← replayed], unwritten⟩
    · exact Or.inr ⟨unwritten, (replay_unwritten unwritten).symm.trans replayed⟩
  · rintro (⟨earlier, later, rfl, unwritten⟩ | ⟨unwritten, held⟩)
    · let write : Write κ ν := ⟨key, value⟩
      have last : replay table (earlier ++ write :: later) write.key = write.value := replay_last unwritten
      exact last
    · exact (replay_unwritten unwritten).trans held

end Journal

/-- A table that the events of a system write to is the replay of their writes. -/
theorem Run.replays {σ : Type u} {ε : Type v} {κ : Type w} {ν : Type x} [DecidableEq κ] {step : σ → ε → σ → Prop}
    (table : σ → κ → Option ν) (writes : ε → List (Write κ ν))
    (performed : ∀ {before event after}, step before event after → table after = Journal.replay (table before) (writes event))
    {first last : σ} {events : List ε} (run : Run step first events last) :
    table last = Journal.replay (table first) (events.flatMap writes) := by
  induction run with
  | nil => rfl
  | cons head _ ih => rw [ih, performed head, List.flatMap_cons, Journal.replay_append]

end FixProxy
