import FixProxy.Roster

/-! The register of usernames: it is kept in two maps that are inverse to each other, and
it names the sessions that are past their logon and have not ended. -/

namespace FixProxy

def Client.Session.login (client : Client.Session) : Option String :=
  match client.state with
  | .waitingLogon | .zombie => none
  | .waitingCreateRoute | .ready | .waitingRemoveRoute => some client.username

private theorem Client.Session.login_of_identity {client other : Client.Session} (same : other.identity = client.identity) :
    other.login = client.login := by
  unfold Client.Session.identity at same
  unfold Client.Session.login
  cases first : client.state <;> cases second : other.state <;> simp_all

namespace Roster
variable {before middle after : Roster} {session : Nat} {client other : Client.Session} {deed : Deed}

structure Registered (roster : Roster) : Prop where
  inverse : ∀ username session, roster.holder username = some session ↔ roster.username session = some username
  named : ∀ session, roster.username session = (roster.session session).bind Client.Session.login
  doomed : ∀ session, session ∈ roster.doomed ↔ (roster.session session).map (·.state) = some .zombie
  known : ∀ session, roster.session session ≠ none → session ≤ roster.lastSession

/-- The register goes by the usernames that are held and the zombies that are left. -/
theorem Registered.congr (registered : before.Registered) (holder : after.holder = before.holder)
    (username : after.username = before.username) (doomed : after.doomed = before.doomed)
    (lastSession : after.lastSession = before.lastSession)
    (login : ∀ session, (after.session session).bind Client.Session.login =
      (before.session session).bind Client.Session.login)
    (zombie : ∀ session, (after.session session).map (·.state) = some .zombie ↔
      (before.session session).map (·.state) = some .zombie)
    (held : ∀ session, after.session session ≠ none → before.session session ≠ none) : after.Registered where
  inverse name session := by
    rw [holder, username]
    exact registered.inverse name session
  named session := by
    rw [username, login]
    exact registered.named session
  doomed session := by
    rw [doomed, zombie]
    exact registered.doomed session
  known session present := by
    rw [lastSession]
    exact registered.known session (held session present)

theorem Registered.record (registered : before.Registered) (held : before.session session = some client)
    (login : other.login = client.login) (zombie : other.state = .zombie ↔ client.state = .zombie) :
    (before.record session other).Registered := by
  refine registered.congr rfl rfl rfl rfl (fun name => ?_) (fun name => ?_) fun name present => ?_
  · by_cases same : name = session
    · subst name
      simp [held, login]
    · simp [same]
  · by_cases same : name = session
    · subst name
      simp [held, zombie]
    · simp [same]
  · by_cases same : name = session
    · subst name
      simp [held]
    · simpa [same] using present

theorem Registered.logged (registered : before.Registered) (log : List Output) :
    ({ before with log } : Roster).Registered :=
  ⟨registered.inverse, registered.named, registered.doomed, registered.known⟩

theorem Calm.registered (calm : Calm session before after) (registered : before.Registered) : after.Registered := by
  have identity name : (after.session name).map Client.Session.identity = (before.session name).map Client.Session.identity := by
    by_cases same : name = session
    · subst name
      exact calm.identity
    · rw [calm.others name same]
  refine registered.congr calm.holder calm.username calm.doomed calm.lastSession (fun name => ?_) (fun name => ?_)
    fun name present => ?_
  all_goals
    have same := identity name
    cases first : before.session name <;> cases second : after.session name <;> simp_all
  · exact Client.Session.login_of_identity same
  · rw [Client.Session.state_of_identity same]

/-- A session that ends gives its username back, and is left to be collected. -/
theorem Registered.bury (registered : before.Registered) (held : before.session session = some client)
    (partings : List Output) : (before.bury session client partings).Registered where
  inverse username name := by
    simp only [Roster.bury, Function.update_apply]
    split
    · next own =>
      have holds := (registered.inverse username session).mpr own
      split
      · simp
      · next different =>
        rw [← registered.inverse, holds]
        simpa using Ne.symm different
    · next other =>
      rw [registered.inverse]
      split
      · next same => simp [same, other]
      · rfl
  named name := by
    simp only [Roster.bury, Function.update_apply]
    split
    · simp [Client.Session.login]
    · exact registered.named name
  doomed name := by
    simp only [Roster.bury, Function.update_apply, List.mem_insert_iff]
    by_cases same : name = session
    · simp [same]
    · simp [same, registered.doomed]
  known name present := by
    by_cases same : name = session
    · subst name
      exact registered.known session (by simp [held])
    · simp only [Roster.bury, Function.update_of_ne same] at present
      exact registered.known name present

theorem Registered.say (registered : before.Registered) (held : before.session session = some client)
    (message : Codec.ToClient) : (before.say session client message).Registered := by
  have counted : (before.record session { client with outboundMsgSeqNum := client.outboundMsgSeqNum + 1 }).Registered :=
    registered.record held rfl Iff.rfl
  exact counted.logged _

theorem Registered.enlist (registered : before.Registered) (held : before.session session = some client)
    (alive : client.state ≠ .zombie) {username : String} (party : String) (free : before.holder username = none)
    (unnamed : before.username session = none) :
    ({ before.record session { client with state := .waitingCreateRoute, username, partyId := party } with
        holder := Function.update before.holder username (some session)
        username := Function.update before.username session (some username) } : Roster).Registered where
  inverse other name := by
    simp only [Function.update_apply]
    by_cases same : other = username
    · subst other
      by_cases own : name = session
      · simp [own]
      · have vacant : before.username name ≠ some username := fun named => by
          rw [(registered.inverse username name).mpr named] at free
          cases free
        simp [own, vacant, Ne.symm own]
    · by_cases own : name = session
      · subst name
        have vacant : before.holder other ≠ some session := fun holds => by
          rw [(registered.inverse other session).mp holds] at unnamed
          cases unnamed
        simp [same, vacant, Ne.symm same]
      · simpa [same, own] using registered.inverse other name
  named name := by
    by_cases own : name = session
    · simp [own, Client.Session.login]
    · simpa [own] using registered.named name
  doomed name := by
    by_cases own : name = session
    · subst name
      simp [registered.doomed, held, alive]
    · simpa [own] using registered.doomed name
  known name present := by
    by_cases own : name = session
    · subst name
      exact registered.known session (by simp [held])
    · exact registered.known name (by simpa [own] using present)

theorem Does.registered (does : Does session before deed after) (registered : before.Registered) :
    after.Registered := by
  cases does with
  | rest => exact registered
  | say held => exact registered.say held _
  | pass held ready => exact registered.logged _
  | @welcome client message held waiting =>
    refine (registered.say held (.logon message)).record (by simp [Roster.say]; rfl) ?_ ?_
    · simp [Client.Session.login, waiting]
    · simp [waiting]
  | @depart client userRequestId msgSeqNum held ready =>
    have departed : (before.record session { client with state := .waitingRemoveRoute }).Registered :=
      registered.record held (by simp [Client.Session.login, ready]) (by simp [ready])
    exact departed.logged _
  | @dismiss client message partings held alive parting =>
    have shut : ((before.say session client message).shut session).Registered := (registered.say held message).logged _
    exact shut.bury (by simp [Roster.say, Roster.shut]) partings
  | @leave client partings held alive parting =>
    have shut : (before.shut session).Registered := registered.logged _
    exact shut.bury held partings
  | vanish held alive parting => exact registered.bury held _
  | @enlist client username party userRequestId msgSeqNum held arriving free unnamed =>
    exact (registered.enlist held (by simp [arriving]) party free unnamed).logged _

theorem Acts.registered (acts : Acts session deed before after) (registered : before.Registered) : after.Registered := by
  obtain ⟨first, last, head, does, rest⟩ := acts
  exact rest.registered (does.registered (head.registered registered))

theorem Turn.registered {allowed : Client.Session → Deed → Prop} (turn : Turn allowed before session after)
    (registered : before.Registered) : after.Registered := by
  unfold Turn at turn
  split at turn
  · exact turn ▸ registered
  · obtain ⟨deed, -, acts⟩ := turn
    exact acts.registered registered

theorem Told.registered (told : Told before after) (registered : before.Registered) : after.Registered := by
  obtain ⟨outputs, -, rfl⟩ := told
  exact registered.logged _

theorem Registered.arrive (registered : before.Registered) (client : Client.Session)
    (arriving : client.state = .waitingLogon) : (before.arrive client).Registered := by
  have fresh : before.session (before.lastSession + 1) = none := by
    by_contra present
    have := registered.known _ present
    omega
  constructor
  · exact registered.inverse
  · intro name
    simp only [Roster.arrive, Function.update_apply]
    split
    · next same => rw [registered.named, same, fresh]; simp [Client.Session.login, arriving]
    · exact registered.named name
  · intro name
    simp only [Roster.arrive, Function.update_apply]
    split
    · next same => simp [registered.doomed, same, fresh, arriving]
    · exact registered.doomed name
  · intro name present
    simp only [Roster.arrive, Function.update_apply] at present ⊢
    split at present
    · next same => omega
    · exact Nat.le_succ_of_le (registered.known name present)

theorem Registered.sweep (registered : before.Registered) : before.sweep.Registered where
  inverse := registered.inverse
  named session := by
    simp only [Roster.sweep, Roster.forget]
    rw [registered.named]
    split
    · next doomed =>
      obtain ⟨client, held, zombie⟩ := Option.map_eq_some_iff.mp ((registered.doomed session).mp doomed)
      simp [held, Client.Session.login, zombie]
    · rfl
  doomed session := by
    simp only [Roster.sweep, Roster.forget, List.not_mem_nil, false_iff]
    split
    · simp
    · next spared => exact fun zombie => spared ((registered.doomed session).mpr zombie)
  known session present := by
    simp only [Roster.sweep, Roster.forget] at present
    split at present
    · exact absurd rfl present
    · exact registered.known session present

end Roster
end FixProxy
