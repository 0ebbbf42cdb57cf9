import FixProxy.Proofs.RouterSafety

/-! What every router keeps about its indexes. Only a session that serves has keys;
an entry leads back to the key it was made with; and an id tells how it was made:
by the counter, or from a party and the client's own id. -/

namespace FixProxy.Router
open Codec

/-- The ways in which a step changes one index. -/
inductive IndexStep (before after : Router) (name : MappingName) : Index Nat String String Bool → Prop where
  | same : IndexStep before after name (before.index name)
  | touch {session : Nat} {party : String} (ready : before.session session = some (.ready, party)) :
      IndexStep before after name ((before.index name).touch session)
  | openFresh {session : Nat} {party clientId : String} {keepAlive : Bool}
      (ready : before.session session = some (.ready, party)) (fresh : name.Fresh)
      (free : (before.index name).key session clientId = none) (issued : Issued after.lastRequest before.nextId) :
      IndexStep before after name ((before.index name).add before.nextId session clientId keepAlive)
  | openStamped {session : Nat} {party clientId : String} {keepAlive : Bool}
      (ready : before.session session = some (.ready, party)) (stamped : ¬ name.Fresh)
      (free : (before.index name).key session clientId = none)
      (nonempty : name = .ordStatusReqId → clientId ≠ "") :
      IndexStep before after name
        ((before.index name).add (createRequestId party clientId) session clientId keepAlive)
  | enter {session : Nat} {party : String} (ready : before.session session = some (.ready, party))
      (ordStatus : name = .ordStatusReqId) :
      IndexStep before after name ((before.index name).enter (createRequestId party "") session "" false)
  | release {id : String} : IndexStep before after name ((before.index name).release id)
  | retain {id : String} {keepAlive : Bool} : IndexStep before after name ((before.index name).retain id keepAlive)
  | clear (session : Nat) : IndexStep before after name ((before.index name).clear session)

private theorem indexStep_update {before after : Router} {changed : MappingName}
    {index : Index Nat String String Bool} (step : IndexStep before after changed index) (name : MappingName) :
    IndexStep before after name (Function.update before.index changed index name) := by
  by_cases same : name = changed
  · subst name
    simpa using step
  · simpa [same] using IndexStep.same

theorem index_step {before after : Router} {action : Action} (step : Step before action after)
    (name : MappingName) : IndexStep before after name (after.index name) := by
  cases step with
  | touch ready => exact indexStep_update (.touch ready) name
  | openFresh ready fresh free => exact indexStep_update (.openFresh ready fresh free (issued_next _)) name
  | openStamped ready stamped free nonempty => exact indexStep_update (.openStamped ready stamped free nonempty) name
  | enter ready => exact indexStep_update (.enter ready rfl) name
  | release => exact indexStep_update .release name
  | retain => exact indexStep_update .retain name
  | retire => exact .clear _
  | retireAsking => exact .clear _
  | _ => exact .same

/-- A name that comes with a key. An order status request may do without. -/
def Named (name : MappingName) (clientId : String) : Prop := name = .ordStatusReqId → clientId ≠ ""

structure Indexed (router : Router) : Prop where
  held : ∀ name, (router.index name).Held
  serving : ∀ name session, (router.index name).present session → router.Serving session
  registered : ∀ name, (router.index name).Registered (Named name)
  issuedEntry : ∀ name, name.Fresh → ∀ id entry, (router.index name).entry id = some entry →
    Issued router.lastRequest id
  issuedKey : ∀ name, name.Fresh → ∀ session clientId id, (router.index name).key session clientId = some id →
    Issued router.lastRequest id
  backed : ∀ name, name.Fresh → (router.index name).Backed
  stampedEntry : ∀ name, ¬ name.Fresh → ∀ id session clientId keepAlive,
    (router.index name).entry id = some (session, clientId, keepAlive) →
    ∃ party, Plain party ∧ id = createRequestId party clientId
  stampedKey : ∀ name, ¬ name.Fresh → ∀ session clientId id, (router.index name).key session clientId = some id →
    ∀ state party, router.session session = some (state, party) → id = createRequestId party clientId
  plain : ∀ session state party, router.session session = some (state, party) → state.Active → Plain party
  unkeyed : ∀ session, (router.index .ordStatusReqId).key session "" = none

attribute [grind =] Serving Action.Ends

private theorem serving_step {before after : Router} {action : Action} (step : Step before action after)
    (sound : before.Sound) {session : Nat} (serving : before.Serving session) :
    after.Serving session ∨ action.Ends session := by
  obtain ⟨known, -, -, doomed⟩ := sound
  cases step with
  | accept => grind
  | nominate arriving => grind
  | logOn arriving plain unlocked upstream => grind
  | strand arriving unlocked upstream => grind
  | drop arriving => grind
  | logOff ready upstream => grind
  | retire held active silent => grind
  | retireAsking held active owned ready => grind
  | grant answers asker held => grind
  | sweep => grind
  | _ => exact Or.inl serving

private theorem party_step {before after : Router} {action : Action} (step : Step before action after)
    {session : Nat} {state state' : Client.State} {party party' : String}
    (held : before.session session = some (state, party)) (departed : state ≠ .waitingLogon)
    (still : after.session session = some (state', party')) : party' = party := by
  cases step <;> grind

private theorem ended_absent {before after : Router} {action : Action} {session : Nat} (step : Step before action after)
    (ends : action.Ends session) (name : MappingName) : ¬ (after.index name).present session := by
  cases step with
  | retire => cases ends; exact fun present => present.2 rfl
  | retireAsking => cases ends; exact fun present => present.2 rfl
  | _ => exact ends.elim

private theorem plain_step {before after : Router} {action : Action} (step : Step before action after) (sound : before.Sound)
    (plain : ∀ session state party, before.session session = some (state, party) → state.Active → Plain party) :
    ∀ session state party, after.session session = some (state, party) → state.Active → Plain party := by
  obtain ⟨known, -, -, -⟩ := sound
  cases step <;> grind

section IndexFacts
variable {before after : Router} {name : MappingName} {index : Index Nat String String Bool}

private theorem held_change (change : IndexStep before after name index) (held : (before.index name).Held) :
    index.Held := by
  cases change with
  | same => exact held
  | touch => exact held.touch
  | openFresh => exact held.add
  | openStamped => exact held.add
  | enter => exact held.enter
  | release => exact held.release
  | retain => exact held.retain
  | clear => exact held.clear

private theorem serving_change (change : IndexStep before after name index)
    (serving : ∀ session, (before.index name).present session → before.Serving session) (session : Nat)
    (present : index.present session) : before.Serving session := by
  have added : ∀ {opened : Nat} {party : String}, before.session opened = some (.ready, party) →
      (before.index name).present session ∨ session = opened → before.Serving session := by
    rintro opened party ready (older | rfl)
    · exact serving session older
    · exact Or.inl (by simp [ready])
  cases change with
  | same => exact serving session present
  | touch ready => exact added ready present
  | openFresh ready fresh free issued => exact added ready present
  | openStamped ready stamped free nonempty => exact added ready present
  | enter => exact serving session present
  | release =>
    unfold Index.release at present
    split at present
    · exact serving session present
    · exact serving session present.1
  | retain => exact serving session present
  | clear => exact serving session present.1

private theorem registered_change (change : IndexStep before after name index)
    (registered : (before.index name).Registered (Named name)) : index.Registered (Named name) := by
  cases change with
  | same => exact registered
  | touch => exact registered
  | openFresh ready fresh free => exact registered.add free
  | openStamped ready stamped free => exact registered.add free
  | enter ready ordStatus => exact registered.enter fun named => named ordStatus rfl
  | release => exact registered.release
  | retain => exact registered.retain
  | clear => exact registered.clear

private theorem entry_change (change : IndexStep before after name index) {id clientId : String} {session : Nat}
    {keepAlive : Bool} (entry : index.entry id = some (session, clientId, keepAlive)) :
    (∃ keepAlive, (before.index name).entry id = some (session, clientId, keepAlive)) ∨
    ∃ party, before.session session = some (.ready, party) ∧
      (name.Fresh ∧ id = before.nextId ∧ Issued after.lastRequest id ∨
        ¬ name.Fresh ∧ id = createRequestId party clientId) := by
  cases change with
  | same => exact Or.inl ⟨_, entry⟩
  | touch => exact Or.inl ⟨_, entry⟩
  | openFresh ready fresh free issued =>
    obtain older | ⟨-, rfl, rfl, rfl⟩ := Index.entry_of_enter entry
    · exact Or.inl ⟨_, older⟩
    · exact Or.inr ⟨_, ready, Or.inl ⟨fresh, rfl, issued⟩⟩
  | openStamped ready stamped free nonempty =>
    obtain older | ⟨-, rfl, rfl, rfl⟩ := Index.entry_of_enter entry
    · exact Or.inl ⟨_, older⟩
    · exact Or.inr ⟨_, ready, Or.inr ⟨stamped, rfl⟩⟩
  | enter ready ordStatus =>
    obtain older | ⟨-, rfl, rfl, rfl⟩ := Index.entry_of_enter entry
    · exact Or.inl ⟨_, older⟩
    · exact Or.inr ⟨_, ready, Or.inr ⟨by simp [ordStatus, MappingName.Fresh], rfl⟩⟩
  | release => exact Or.inl ⟨_, (Index.entry_of_release entry).1⟩
  | retain => exact Or.inl (Index.entry_of_retain entry)
  | clear => exact Or.inl ⟨_, (Index.entry_of_clear entry).1⟩

private theorem key_change (change : IndexStep before after name index) {id clientId : String} {session : Nat}
    (key : index.key session clientId = some id) :
    (before.index name).key session clientId = some id ∨
    ∃ party, before.session session = some (.ready, party) ∧ (name = .ordStatusReqId → clientId ≠ "") ∧
      (name.Fresh ∧ id = before.nextId ∧ Issued after.lastRequest id ∨
        ¬ name.Fresh ∧ id = createRequestId party clientId) := by
  cases change with
  | same => exact Or.inl key
  | touch => exact Or.inl key
  | openFresh ready fresh free issued =>
    obtain older | ⟨-, rfl, rfl, rfl⟩ := Index.key_of_add key
    · exact Or.inl older
    · exact Or.inr ⟨_, ready, fun ordStatus => by simp [ordStatus, MappingName.Fresh] at fresh,
        Or.inl ⟨fresh, rfl, issued⟩⟩
  | openStamped ready stamped free nonempty =>
    obtain older | ⟨-, rfl, rfl, rfl⟩ := Index.key_of_add key
    · exact Or.inl older
    · exact Or.inr ⟨_, ready, nonempty, Or.inr ⟨stamped, rfl⟩⟩
  | enter => exact Or.inl key
  | release => exact Or.inl (Index.key_of_release key)
  | retain => exact Or.inl key
  | clear => exact Or.inl (Index.key_of_clear key).1

private theorem backed_change (change : IndexStep before after name index) (fresh : name.Fresh)
    (backed : (before.index name).Backed)
    (issued : ∀ id entry, (before.index name).entry id = some entry → Issued before.lastRequest id) :
    index.Backed := by
  cases change with
  | same => exact backed
  | touch => exact backed
  | openFresh ready fresh free =>
    apply backed.add
    cases taken : (before.index name).entry before.nextId with
    | none => rfl
    | some entry => exact absurd (issued _ _ taken) (not_issued_next _)
  | openStamped ready stamped => exact absurd fresh stamped
  | enter => exact backed.enter
  | release => exact backed.release
  | retain => exact backed.retain
  | clear => exact backed.clear

end IndexFacts

private theorem indexed_step {before after : Router} {action : Action} (step : Step before action after)
    (sound : before.Sound) (indexed : before.Indexed) : after.Indexed := by
  obtain ⟨held, serving, registered, issuedEntry, issuedKey, backed, stampedEntry, stampedKey, plain, unkeyed⟩ := indexed
  have change := index_step step
  refine
    { held := fun name => held_change (change name) (held name)
      serving := ?_
      registered := fun name => registered_change (change name) (registered name)
      issuedEntry := ?_
      issuedKey := ?_
      backed := fun name fresh => backed_change (change name) fresh (backed name fresh) (issuedEntry name fresh)
      stampedEntry := ?_
      stampedKey := ?_
      plain := plain_step step sound plain
      unkeyed := ?_ }
  · intro name session present
    obtain still | ends := serving_step step sound (serving_change (change name) (serving name) session present)
    · exact still
    · exact absurd present (ended_absent step ends name)
  · rintro name fresh id ⟨session, clientId, keepAlive⟩ entry
    obtain ⟨keepAlive, older⟩ | ⟨party, -, ⟨-, -, issued⟩ | ⟨stamped, -⟩⟩ := entry_change (change name) entry
    · exact issued_step step (issuedEntry name fresh id _ older)
    · exact issued
    · exact absurd fresh stamped
  · intro name fresh session clientId id key
    obtain older | ⟨party, -, -, ⟨-, -, issued⟩ | ⟨stamped, -⟩⟩ := key_change (change name) key
    · exact issued_step step (issuedKey name fresh session clientId id older)
    · exact issued
    · exact absurd fresh stamped
  · intro name stamped id session clientId keepAlive entry
    obtain ⟨keepAlive, older⟩ | ⟨party, ready, ⟨fresh, -⟩ | ⟨-, rfl⟩⟩ := entry_change (change name) entry
    · exact stampedEntry name stamped id session clientId keepAlive older
    · exact absurd fresh stamped
    · exact ⟨party, plain session .ready party ready trivial, rfl⟩
  · intro name stamped session clientId id key state party still
    obtain older | ⟨party', ready, -, ⟨fresh, -⟩ | ⟨-, rfl⟩⟩ := key_change (change name) key
    · have serves := serving name session (held name session clientId id older)
      cases known : before.session session with
      | none => simp [Serving, known] at serves
      | some pair =>
        obtain ⟨old, party'⟩ := pair
        have departed : old ≠ .waitingLogon := by
          rintro rfl
          simp [Serving, known] at serves
        rw [party_step step known departed still]
        exact stampedKey name stamped session clientId id older old party' known
    · exact absurd fresh stamped
    · rw [party_step step ready (by decide) still]
  · intro session
    cases key : (after.index .ordStatusReqId).key session "" with
    | none => rfl
    | some id =>
      obtain older | ⟨party, -, nonempty, -⟩ := key_change (change .ordStatusReqId) key
      · rw [unkeyed session] at older
        cases older
      · exact absurd rfl (nonempty rfl)

/-- A session with a key under a stamped name serves, and its id is made of its own party. -/
theorem key_stamped {router : Router} (indexed : router.Indexed) {name : MappingName} (stamped : ¬ name.Fresh)
    {session : Nat} {clientId id : String} (key : (router.index name).key session clientId = some id) :
    ∃ state party, router.session session = some (state, party) ∧ router.Serving session ∧ Plain party ∧
      id = createRequestId party clientId := by
  have serving := indexed.serving name session (indexed.held name session clientId id key)
  cases held : router.session session with
  | none => simp [Serving, held] at serving
  | some pair =>
    obtain ⟨state, party⟩ := pair
    have active : state.Active := by
      unfold Serving at serving
      rw [held] at serving
      rcases serving with ready | leaving
      · cases Option.some.inj ready
        trivial
      · cases Option.some.inj leaving
        trivial
    exact ⟨state, party, rfl, serving, indexed.plain session state party held active,
      indexed.stampedKey name stamped session clientId id key state party held⟩

/-- The invariants that hold whatever the environment does. -/
structure Consistent (router : Router) : Prop where
  sound : router.Sound
  inverse : router.Inverse
  accounted : router.Accounted
  indexed : router.Indexed

theorem consistent_step {before after : Router} {action : Action} (step : Step before action after)
    (consistent : before.Consistent) : after.Consistent where
  sound := sound_step step consistent.sound
  inverse := inverse_step step consistent.inverse
  accounted := accounted_step step consistent.sound consistent.accounted
  indexed := indexed_step step consistent.sound consistent.indexed

end FixProxy.Router
