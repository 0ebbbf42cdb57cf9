import Mathlib.Logic.Function.Basic

/-! Two-way indexes. An entry names its owner, the owner's own name for it and a
flag; the keys lead back from an owner and a name to the entry. Both sides are
filled by emplacement, so an older entry or key is silently kept: the two sides
agree only as long as nothing is ever kept. -/

set_option linter.unusedSectionVars false

namespace FixProxy

def emplace [DecidableEq α] (table : α → Option β) (key : α) (value : β) : α → Option β :=
  Function.update table key (some ((table key).getD value))

@[grind =] theorem emplace_apply [DecidableEq α] (table : α → Option β) (key other : α) (value : β) :
    emplace table key value other = if other = key then some ((table key).getD value) else table other := by
  simp [emplace, Function.update_apply]

theorem emplace_of_none [DecidableEq α] {table : α → Option β} {key : α} (free : table key = none) (value : β) :
    emplace table key value = Function.update table key (some value) := by
  simp [emplace, free]

theorem emplace_of_ne [DecidableEq α] (table : α → Option β) {key other : α} {value : β} (different : other ≠ key) :
    emplace table key value other = table other :=
  Function.update_of_ne different ..

@[ext] structure Index (σ : Type u) (κ : Type v) (ρ : Type w) (φ : Type x) where
  entry : ρ → Option (σ × κ × φ)
  key : σ → κ → Option ρ
  /-- the owners that have a table of keys, possibly an empty one -/
  present : σ → Prop

namespace Index
variable {σ : Type u} {κ : Type v} {ρ : Type w} {φ : Type x}

def empty : Index σ κ ρ φ where
  entry _ := none
  key _ _ := none
  present _ := False

section Operations
variable [DecidableEq σ] [DecidableEq κ] [DecidableEq ρ]

def touch (owner : σ) (index : Index σ κ ρ φ) : Index σ κ ρ φ :=
  { index with present := fun other => index.present other ∨ other = owner }

def enter (id : ρ) (owner : σ) (name : κ) (flag : φ) (index : Index σ κ ρ φ) : Index σ κ ρ φ :=
  { index with entry := emplace index.entry id (owner, name, flag) }

def add (id : ρ) (owner : σ) (name : κ) (flag : φ) (index : Index σ κ ρ φ) : Index σ κ ρ φ where
  entry := emplace index.entry id (owner, name, flag)
  key := Function.update index.key owner (emplace (index.key owner) name id)
  present other := index.present other ∨ other = owner

/-- Drop an entry with the key its owner has under the entry's name; an owner left
without keys loses its table. -/
def release (id : ρ) (index : Index σ κ ρ φ) : Index σ κ ρ φ :=
  match index.entry id with
  | none => index
  | some (owner, name, _) =>
    { entry := Function.update index.entry id none
      key := Function.update index.key owner (Function.update (index.key owner) name none)
      present := fun other => index.present other ∧
        (other = owner → ∃ kept, kept ≠ name ∧ (index.key owner kept).isSome) }

open Classical in
/-- Drop every key of an owner, and every entry one of them leads to. -/
noncomputable def clear (owner : σ) (index : Index σ κ ρ φ) : Index σ κ ρ φ where
  entry id := if ∃ name, index.key owner name = some id then none else index.entry id
  key := Function.update index.key owner fun _ => none
  present other := index.present other ∧ other ≠ owner

/-- The entries of some ids are gone, whatever led to them. -/
def forget (ids : List ρ) (index : Index σ κ ρ φ) : Index σ κ ρ φ :=
  { index with entry := fun id => if id ∈ ids then none else index.entry id }

def retain (id : ρ) (flag : φ) (index : Index σ κ ρ φ) : Index σ κ ρ φ :=
  { index with
    entry := Function.update index.entry id
      ((index.entry id).map fun (owner, name, _) => (owner, name, flag)) }

@[simp] theorem forget_nil (index : Index σ κ ρ φ) : index.forget [] = index := by
  simp [forget]

theorem forget_forget (ids later : List ρ) (index : Index σ κ ρ φ) :
    (index.forget ids).forget later = index.forget (ids ++ later) := by
  apply Index.ext
  · funext id
    by_cases first : id ∈ ids <;> simp [forget, first]
  · rfl
  · rfl

theorem clear_of_absent {owner : σ} {index : Index σ κ ρ φ} (unkeyed : ∀ name, index.key owner name = none)
    (absent : ¬ index.present owner) : index.clear owner = index := by
  apply Index.ext
  · funext id
    simp [clear, unkeyed]
  · funext other name
    by_cases same : other = owner
    · subst other
      simp [clear, unkeyed]
    · simp [clear, same]
  · funext other
    by_cases same : other = owner
    · subst other
      simp [clear, absent]
    · simp [clear, same]

/-! What each operation leaves. -/

variable {index : Index σ κ ρ φ} {id other : ρ} {owner owner' : σ} {name name' : κ} {flag flag' : φ}

theorem entry_of_enter (made : (index.enter id owner name flag).entry other = some (owner', name', flag')) :
    index.entry other = some (owner', name', flag') ∨
      index.entry id = none ∧ other = id ∧ owner' = owner ∧ name' = name := by
  unfold enter emplace at made
  by_cases same : other = id
  · subst other
    cases older : index.entry id with
    | none => simp_all
    | some _ => simp_all
  · simp_all

theorem key_of_add (made : (index.add id owner name flag).key owner' name' = some other) :
    index.key owner' name' = some other ∨ index.key owner name = none ∧ owner' = owner ∧ name' = name ∧ other = id := by
  unfold add emplace at made
  by_cases sameOwner : owner' = owner
  · subst owner'
    by_cases sameName : name' = name
    · subst name'
      cases older : index.key owner name <;> simp_all
    · simp_all
  · simp_all

theorem entry_of_release (left : (index.release id).entry other = some (owner', name', flag')) :
    index.entry other = some (owner', name', flag') ∧ other ≠ id := by
  unfold release at left
  by_cases same : other = id
  · subst other
    cases held : index.entry id <;> simp_all
  · cases held : index.entry id <;> simp_all

theorem release_entry (id other : ρ) (index : Index σ κ ρ φ) :
    (index.release id).entry other = if other = id then none else index.entry other := by
  unfold release
  by_cases same : other = id
  · subst other
    cases held : index.entry id <;> simp [held]
  · cases held : index.entry id <;> simp [same]

theorem key_of_release (left : (index.release id).key owner' name' = some other) :
    index.key owner' name' = some other := by
  unfold release at left
  cases held : index.entry id with
  | none => simpa [held] using left
  | some found =>
    obtain ⟨owner, name, flag⟩ := found
    simp only [held, Function.update_apply] at left
    split at left
    · next same =>
      subst owner'
      simp only [Function.update_apply] at left
      split at left
      · cases left
      · exact left
    · exact left

theorem entry_of_clear (left : (index.clear owner).entry other = some (owner', name', flag')) :
    index.entry other = some (owner', name', flag') ∧ ∀ name, index.key owner name ≠ some other := by
  simp only [clear] at left
  split at left
  · cases left
  · next free => exact ⟨left, fun name held => free ⟨name, held⟩⟩

theorem key_of_clear (left : (index.clear owner).key owner' name' = some other) :
    index.key owner' name' = some other ∧ owner' ≠ owner := by
  by_cases same : owner' = owner
  · subst owner'
    simp [clear] at left
  · exact ⟨by simpa [clear, same] using left, same⟩

theorem entry_of_retain (kept : (index.retain id flag).entry other = some (owner', name', flag')) :
    ∃ flag, index.entry other = some (owner', name', flag) := by
  unfold retain at kept
  by_cases same : other = id
  · subst other
    cases held : index.entry id with
    | none => simp [held] at kept
    | some found =>
      simp only [held, Function.update_self, Option.map_some, Option.some.injEq, Prod.mk.injEq] at kept
      obtain ⟨rfl, rfl, -⟩ := kept
      exact ⟨_, rfl⟩
  · exact ⟨flag', by simpa [same] using kept⟩

/-! When the two sides agree. Entries may be exempt from having a key, by their name. -/

/-- An owner with a key has a table. -/
def Held (index : Index σ κ ρ φ) : Prop := ∀ owner name id, index.key owner name = some id → index.present owner

/-- Every entry is the one its owner's key leads to. -/
def Registered (named : κ → Prop) (index : Index σ κ ρ φ) : Prop :=
  ∀ id owner name flag, index.entry id = some (owner, name, flag) → named name → index.key owner name = some id

/-- Every key leads to an entry of its owner, under its own name. -/
def Backed (index : Index σ κ ρ φ) : Prop :=
  ∀ owner name id, index.key owner name = some id → ∃ flag, index.entry id = some (owner, name, flag)

variable {named : κ → Prop}

theorem Held.touch (held : index.Held) : (index.touch owner).Held :=
  fun other name id key => Or.inl (held other name id key)

theorem Held.enter (held : index.Held) : (index.enter id owner name flag).Held := held

theorem Held.add (held : index.Held) : (index.add id owner name flag).Held := by
  intro owner' name' other key
  obtain older | ⟨-, rfl, -⟩ := key_of_add key
  · exact Or.inl (held owner' name' other older)
  · exact Or.inr rfl

theorem Held.release (held : index.Held) : (index.release id).Held := by
  intro owner' name' other key
  have older := key_of_release key
  unfold Index.release at key ⊢
  cases found : index.entry id with
  | none => exact held owner' name' other older
  | some entry =>
    obtain ⟨owner, name, flag⟩ := entry
    refine ⟨held owner' name' other older, fun same => ⟨name', ?_, ?_⟩⟩
    · rintro rfl
      subst owner'
      simp [found] at key
    · subst owner'
      simp [older]

theorem Held.clear (held : index.Held) : (index.clear owner).Held := by
  intro owner' name' other key
  obtain ⟨older, different⟩ := key_of_clear key
  exact ⟨held owner' name' other older, different⟩

theorem Held.retain (held : index.Held) : (index.retain id flag).Held := held

theorem key_of_key_add (key : index.key owner' name' = some other) :
    (index.add id owner name flag).key owner' name' = some other := by
  by_cases sameOwner : owner' = owner
  · subst owner'
    by_cases sameName : name' = name
    · subst name'
      simp [add, emplace, key]
    · simpa [add, emplace, sameName] using key
  · simpa [add, sameOwner] using key

/-- A key goes with the entry it leads to, by its name or with its owner. -/
theorem Registered.key_release (registered : index.Registered named) (isNamed : named name)
    (key : index.key owner name = some id) :
    (index.release other).key owner name = some id ∨ (index.release other).entry id = none := by
  by_cases same : other = id
  · exact Or.inr (by rw [release_entry, if_pos same.symm])
  · refine Or.inl ?_
    unfold release
    cases found : index.entry other with
    | none => exact key
    | some entry =>
      obtain ⟨owner', name', flag⟩ := entry
      by_cases sameOwner : owner = owner'
      · subst owner'
        have sameName : name ≠ name' := by
          rintro rfl
          rw [registered other owner name flag found isNamed] at key
          exact same (Option.some.inj key)
        simpa [sameName] using key
      · simpa [sameOwner] using key

theorem key_clear (key : index.key owner name = some id) :
    (index.clear owner').key owner name = some id ∨ (index.clear owner').entry id = none := by
  by_cases same : owner = owner'
  · subst owner'
    exact Or.inr (if_pos ⟨name, key⟩)
  · exact Or.inl (by simpa [clear, same] using key)

theorem Registered.enter (registered : index.Registered named) (unnamed : ¬ named name) :
    (index.enter id owner name flag).Registered named := by
  intro other owner' name' flag' entry isNamed
  obtain older | ⟨-, -, -, rfl⟩ := entry_of_enter entry
  · exact registered other owner' name' flag' older isNamed
  · exact absurd isNamed unnamed

theorem Registered.add (registered : index.Registered named) (free : index.key owner name = none) :
    (index.add id owner name flag).Registered named := by
  intro other owner' name' flag' entry isNamed
  obtain older | ⟨-, rfl, rfl, rfl⟩ := entry_of_enter entry
  · have key := registered other owner' name' flag' older isNamed
    by_cases sameOwner : owner' = owner
    · subst owner'
      have sameName : name' ≠ name := by
        rintro rfl
        rw [free] at key
        cases key
      simpa [Index.add, emplace, sameName] using key
    · simpa [Index.add, sameOwner] using key
  · simp [Index.add, emplace, free]

theorem Registered.release (registered : index.Registered named) : (index.release id).Registered named := by
  intro other owner' name' flag' entry isNamed
  obtain ⟨older, different⟩ := entry_of_release entry
  have key := registered other owner' name' flag' older isNamed
  unfold Index.release
  cases found : index.entry id with
  | none => exact key
  | some entry =>
    obtain ⟨owner, name, flag⟩ := entry
    by_cases sameOwner : owner' = owner
    · subst owner'
      have sameName : name' ≠ name := by
        rintro rfl
        rw [registered id _ name' flag found isNamed] at key
        exact different (Option.some.inj key).symm
      simpa [sameName] using key
    · simpa [sameOwner] using key

theorem Registered.clear (registered : index.Registered named) : (index.clear owner).Registered named := by
  intro other owner' name' flag' entry isNamed
  obtain ⟨older, unkeyed⟩ := entry_of_clear entry
  have key := registered other owner' name' flag' older isNamed
  have different : owner' ≠ owner := by
    rintro rfl
    exact unkeyed name' key
  simpa [Index.clear, different] using key

theorem Registered.retain (registered : index.Registered named) : (index.retain id flag).Registered named := by
  intro other owner' name' flag' entry isNamed
  obtain ⟨older, found⟩ := entry_of_retain entry
  exact registered other owner' name' older found isNamed

theorem Backed.enter (backed : index.Backed) : (index.enter id owner name flag).Backed := by
  intro owner' name' other key
  obtain ⟨older, found⟩ := backed owner' name' other key
  refine ⟨older, ?_⟩
  by_cases same : other = id
  · subst other
    simp [Index.enter, emplace, found]
  · simpa [Index.enter, emplace, same] using found

theorem Backed.add (backed : index.Backed) (free : index.entry id = none) :
    (index.add id owner name flag).Backed := by
  intro owner' name' other key
  obtain older | ⟨-, rfl, rfl, rfl⟩ := key_of_add key
  · exact backed.enter owner' name' other older
  · exact ⟨flag, by simp [Index.add, emplace, free]⟩

theorem Backed.release (backed : index.Backed) : (index.release id).Backed := by
  intro owner' name' other key
  obtain ⟨older, entry⟩ := backed owner' name' other (key_of_release key)
  refine ⟨older, ?_⟩
  unfold Index.release at key ⊢
  cases found : index.entry id with
  | none => exact entry
  | some held =>
    obtain ⟨owner, name, flag⟩ := held
    have different : other ≠ id := by
      rintro rfl
      obtain ⟨rfl, rfl, rfl⟩ : owner' = owner ∧ name' = name ∧ older = flag := by simpa [found] using entry.symm
      simp [found] at key
    simpa [different] using entry

theorem Backed.clear (backed : index.Backed) : (index.clear owner).Backed := by
  intro owner' name' other key
  obtain ⟨older, different⟩ := key_of_clear key
  obtain ⟨flag, entry⟩ := backed owner' name' other older
  refine ⟨flag, ?_⟩
  have unkeyed : ¬ ∃ name, index.key owner name = some other := by
    rintro ⟨name, held⟩
    obtain ⟨flag', entry'⟩ := backed owner name other held
    rw [entry] at entry'
    exact different (by simpa using congrArg (Option.map Prod.fst) entry')
  simp [Index.clear, unkeyed, entry]

theorem Backed.retain (backed : index.Backed) : (index.retain id flag).Backed := by
  intro owner' name' other key
  obtain ⟨older, entry⟩ := backed owner' name' other key
  by_cases same : other = id
  · subst other
    exact ⟨flag, by simp [Index.retain, entry]⟩
  · exact ⟨older, by simpa [Index.retain, same] using entry⟩

/-- The two sides are inverses of each other, without exemption. -/
structure Exact (index : Index σ κ ρ φ) : Prop where
  registered : index.Registered fun _ => True
  backed : index.Backed

theorem Exact.touch (exact : index.Exact) : (index.touch owner).Exact := ⟨exact.registered, exact.backed⟩

theorem Exact.add (exact : index.Exact) (free : index.key owner name = none) (unused : index.entry id = none) :
    (index.add id owner name flag).Exact :=
  ⟨exact.registered.add free, exact.backed.add unused⟩

theorem Exact.release (exact : index.Exact) : (index.release id).Exact :=
  ⟨exact.registered.release, exact.backed.release⟩

theorem Exact.clear (exact : index.Exact) : (index.clear owner).Exact := ⟨exact.registered.clear, exact.backed.clear⟩

theorem Exact.retain (exact : index.Exact) : (index.retain id flag).Exact :=
  ⟨exact.registered.retain, exact.backed.retain⟩

theorem Exact.entry_iff (exact : index.Exact) (id : ρ) (owner : σ) (name : κ) :
    (∃ flag, index.entry id = some (owner, name, flag)) ↔ index.key owner name = some id := by
  constructor
  · rintro ⟨flag, entry⟩
    exact exact.registered id owner name flag entry trivial
  · exact exact.backed owner name id

/-! What an owner sees of a change made for another one. -/

/-- Neither the entries nor the keys of an owner change. -/
structure Spares (owner : σ) (before after : Index σ κ ρ φ) : Prop where
  entry : ∀ id name flag, after.entry id = some (owner, name, flag) ↔ before.entry id = some (owner, name, flag)
  key : after.key owner = before.key owner

theorem Spares.refl (owner : σ) (index : Index σ κ ρ φ) : Spares owner index index :=
  ⟨fun _ _ _ => Iff.rfl, rfl⟩

theorem Spares.trans {before middle after : Index σ κ ρ φ} (head : Spares owner before middle)
    (rest : Spares owner middle after) : Spares owner before after :=
  ⟨fun id name flag => (rest.entry id name flag).trans (head.entry id name flag), rest.key.trans head.key⟩

theorem spares_touch : Spares owner index (index.touch owner') := ⟨fun _ _ _ => Iff.rfl, rfl⟩

theorem spares_enter (different : owner ≠ owner') : Spares owner index (index.enter id owner' name flag) where
  entry found name' flag' := by
    by_cases same : found = id
    · subst found
      cases held : index.entry id <;> simp [Index.enter, emplace, held, Ne.symm different]
    · simp [Index.enter, emplace, same]
  key := rfl

theorem spares_add (different : owner ≠ owner') : Spares owner index (index.add id owner' name flag) where
  entry := (spares_enter different).entry
  key := Function.update_of_ne different ..

theorem spares_release (apart : ∀ name flag, index.entry id ≠ some (owner, name, flag)) :
    Spares owner index (index.release id) where
  entry found name' flag' := by
    rw [release_entry]
    split
    · next same =>
      subst found
      exact iff_of_false (by simp) (apart name' flag')
    · rfl
  key := by
    unfold Index.release
    cases held : index.entry id with
    | none => rfl
    | some entry =>
      obtain ⟨owner', ownName, ownFlag⟩ := entry
      have foreign : owner ≠ owner' := by
        rintro rfl
        exact apart ownName ownFlag held
      exact Function.update_of_ne foreign ..

theorem spares_retain (apart : ∀ name flag, index.entry id ≠ some (owner, name, flag)) :
    Spares owner index (index.retain id flag) where
  entry found name' flag' := by
    by_cases same : found = id
    · subst found
      cases held : index.entry id with
      | none => simp [Index.retain, held]
      | some entry =>
        obtain ⟨owner', ownName, ownFlag⟩ := entry
        have foreign : owner' ≠ owner := by
          rintro rfl
          exact apart ownName ownFlag held
        simp [Index.retain, held, foreign]
    · simp [Index.retain, same]
  key := rfl

theorem spares_clear (different : owner ≠ owner')
    (apart : ∀ name id, index.key owner' name = some id → ∀ name flag, index.entry id ≠ some (owner, name, flag)) :
    Spares owner index (index.clear owner') where
  entry id name flag := by
    simp only [Index.clear]
    split
    · next cleared =>
      obtain ⟨ownName, key⟩ := cleared
      exact iff_of_false (by simp) (apart ownName id key name flag)
    · rfl
  key := Function.update_of_ne different ..

end Operations

/-- Two owners may be cleared in either order. -/
theorem clear_comm [DecidableEq σ] {first second : σ} (different : second ≠ first) (index : Index σ κ ρ φ) :
    (index.clear first).clear second = (index.clear second).clear first := by
  have gone {index : Index σ κ ρ φ} {owner : σ} {id : ρ} (named : ∃ name, index.key owner name = some id) :
      (index.clear owner).entry id = none := if_pos named
  have kept {index : Index σ κ ρ φ} {owner : σ} {id : ρ} (free : ¬ ∃ name, index.key owner name = some id) :
      (index.clear owner).entry id = index.entry id := if_neg free
  have apart {owner other : σ} (other_ne : other ≠ owner) : (index.clear owner).key other = index.key other :=
    Function.update_of_ne other_ne ..
  apply Index.ext
  · funext id
    by_cases former : ∃ name, index.key first name = some id <;>
      by_cases latter : ∃ name, index.key second name = some id
    · rw [gone (apart different ▸ latter), gone (apart (Ne.symm different) ▸ former)]
    · rw [kept (apart different ▸ latter), gone former, gone (apart (Ne.symm different) ▸ former)]
    · rw [gone (apart different ▸ latter), kept (apart (Ne.symm different) ▸ former), gone latter]
    · rw [kept (apart different ▸ latter), kept former, kept (apart (Ne.symm different) ▸ former), kept latter]
  · exact Function.update_comm (Ne.symm different) ..
  · funext other
    exact propext and_right_comm

end Index
end FixProxy
