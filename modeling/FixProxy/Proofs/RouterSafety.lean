import FixProxy.Router

/-! What every router keeps whatever is answered. A session past its log-on has an
upstream connection that accepts requests, and only dead sessions are collected;
the program relies on both to send without a failure. Every user request that is
asked and not answered is registered for the session that asked it. -/

namespace FixProxy.Router
open Codec

attribute [grind =] Client.State.Active Function.update_apply

structure Sound (router : Router) : Prop where
  known : ∀ session, router.session session ≠ none → session ≤ router.lastSession
  connected : ∀ session state party, router.session session = some (state, party) → state.Active →
    router.upstream = .ready
  prepared : router.ready = true → router.upstream = .ready
  doomed : ∀ session ∈ router.doomed, (router.session session).map Prod.fst = some .zombie

private theorem session_step {before after : Router} {action : Action} (step : Step before action after) {session : Nat}
    (held : after.session session ≠ none) :
    before.session session ≠ none ∨ session = after.lastSession ∧ after.lastSession = before.lastSession + 1 := by
  have changed {other : Nat} {value : Client.State × String} {fate : Option (Client.State × String)}
      (arriving : before.session other = some value)
      (held : Function.update before.session other fate session ≠ none) : before.session session ≠ none := by
    by_cases same : session = other
    · subst other
      simp [arriving]
    · simpa [same] using held
  cases step with
  | accept =>
    by_cases same : session = before.lastSession + 1
    · exact Or.inr ⟨same, rfl⟩
    · exact Or.inl (by simpa [emplace, same] using held)
  | nominate arriving => exact Or.inl (changed arriving held)
  | logOn arriving => exact Or.inl (changed arriving held)
  | strand arriving => exact Or.inl (changed arriving held)
  | drop arriving => exact Or.inl (changed arriving held)
  | logOff ready => exact Or.inl (changed ready held)
  | retire arriving => exact Or.inl (changed arriving held)
  | retireAsking arriving => exact Or.inl (changed arriving held)
  | grant _ _ arriving => exact Or.inl (changed arriving held)
  | sweep => exact Or.inl fun gone => held (by simp [gone])
  | _ => exact Or.inl held

private theorem next_absent {router : Router}
    (known : ∀ session, router.session session ≠ none → session ≤ router.lastSession) :
    router.session (router.lastSession + 1) = none := by
  by_contra taken
  have bound := known _ taken
  omega

private theorem connected_step {before after : Router} {action : Action} (step : Step before action after)
    (known : ∀ session, before.session session ≠ none → session ≤ before.lastSession)
    (connected : ∀ session state party, before.session session = some (state, party) → state.Active →
      before.upstream = .ready) :
    ∀ session state party, after.session session = some (state, party) → state.Active → after.upstream = .ready := by
  have changed {other : Nat} {value : Client.State × String} (linked : value.1.Active → before.upstream = .ready) :
      ∀ session state party, Function.update before.session other (some value) session = some (state, party) →
        state.Active → before.upstream = .ready := by
    intro session state party held active
    by_cases same : session = other
    · subst other
      rw [Function.update_self] at held
      cases held
      exact linked active
    · rw [Function.update_of_ne same] at held
      exact connected session state party held active
  cases step with
  | accept =>
    simp only [emplace_of_none (next_absent known)]
    exact changed fun active => active.elim
  | nominate | strand | drop | retire | retireAsking => exact changed fun active => active.elim
  | logOn _ _ _ upstream => exact changed fun _ => upstream
  | logOff _ upstream => exact changed fun _ => upstream
  | @grant _ _ session state party _ _ held =>
    refine changed fun active => connected session state party held ?_
    by_cases creating : state = .waitingCreateRoute
    · subst state
      trivial
    · simpa [creating] using active
  | sweep =>
    intro session state party held active
    simp only at held
    split at held
    · cases held
    · exact connected session state party held active
  | connect down =>
    intro session state party held active
    have up := connected session state party held active
    rw [down] at up
    cases up
  | login => exact fun _ _ _ _ _ => rfl
  | lost _ finished =>
    intro session state party held active
    cases finished session state party held
    exact active.elim
  | _ => exact connected

private theorem doomed_step {before after : Router} {action : Action} (step : Step before action after)
    (known : ∀ session, before.session session ≠ none → session ≤ before.lastSession)
    (doomed : ∀ session ∈ before.doomed, (before.session session).map Prod.fst = some .zombie) :
    ∀ session ∈ after.doomed, (after.session session).map Prod.fst = some .zombie := by
  -- a session that is not a zombie is not doomed
  have spared {other : Nat} {state : Client.State} {party : String} {value : Client.State × String}
      (held : before.session other = some (state, party)) (kept : state = .zombie → value.1 = .zombie) :
      ∀ session ∈ before.doomed, (Function.update before.session other (some value) session).map Prod.fst = some .zombie := by
    intro session member
    have dead := doomed session member
    by_cases same : session = other
    · subst other
      rw [held] at dead
      rw [Function.update_self, Option.map_some, kept (Option.some.inj dead)]
    · rwa [Function.update_of_ne same]
  have ended {other : Nat} {party : String} : ∀ session ∈ before.doomed.insert other,
      (Function.update before.session other (some (.zombie, party)) session).map Prod.fst = some .zombie := by
    intro session member
    by_cases same : session = other
    · subst other
      rw [Function.update_self, Option.map_some]
    · rw [Function.update_of_ne same]
      exact doomed session ((List.mem_insert_iff.mp member).resolve_left same)
  cases step with
  | accept =>
    intro session member
    have dead := doomed session member
    have older : session ≠ before.lastSession + 1 := by
      rintro rfl
      rw [next_absent known] at dead
      cases dead
    simpa [emplace_of_none (next_absent known), older] using dead
  | nominate arriving => exact spared arriving (by simp)
  | logOn arriving => exact spared arriving (by simp)
  | logOff ready => exact spared ready (by simp)
  | grant _ _ held => exact spared held fun zombie => by simp [zombie]
  | strand | drop | retire | retireAsking => exact ended
  | sweep => exact fun _ none => (nomatch none)
  | _ => exact doomed

theorem sound_step {before after : Router} {action : Action} (step : Step before action after)
    (sound : before.Sound) : after.Sound := by
  obtain ⟨known, connected, prepared, doomed⟩ := sound
  refine ⟨fun session held => ?_, connected_step step known connected, ?_, doomed_step step known doomed⟩
  · obtain older | ⟨same, -⟩ := session_step step held
    · refine Nat.le_trans (known session older) ?_
      cases step <;> first | exact Nat.le_refl _ | exact Nat.le_succ _
    · exact Nat.le_of_eq same
  · cases step with
    | login => exact fun _ => rfl
    | unready => exact fun ready => (nomatch ready)
    | connect down => exact fun ready => absurd (prepared ready) (by simp [down])
    | lost unready => exact fun ready => absurd ready (by simp [unready])
    | _ => exact prepared

/-! Routes. -/

/-- The two route maps are inverses of each other. -/
def Inverse (router : Router) : Prop :=
  ∀ username session, router.route username = some session ↔ router.owner session = some username

theorem inverse_step {before after : Router} {action : Action} (step : Step before action after)
    (inverse : before.Inverse) : after.Inverse := by
  unfold Inverse at inverse
  have unique : ∀ username left right, before.owner left = some username → before.owner right = some username →
      left = right := by
    intro username left right first second
    exact Option.some.inj (((inverse username left).mpr first).symm.trans ((inverse username right).mpr second))
  intro username session
  cases step with
  | retire held active silent => grind
  | retireAsking held active owned ready => grind
  | grant answers asker held free unowned => grind
  | refuse answers asker held => grind
  | late answers asker collected => grind
  | _ => exact inverse username session

/-! User requests. -/

/-- What a user request that is not answered says about the session it is pending for. -/
def Awaits (session : Option (Client.State × String)) (waiting : Option String) (request : UserRequest) : Prop :=
  match session with
  | some (.waitingLogon, _) | some (.ready, _) => False
  | some (.waitingCreateRoute, party) =>
    request.userRequestType = .logOnUser ∧ request.username = party ∧ waiting = some request.userRequestId
  | some (.waitingRemoveRoute, party) =>
    request.userRequestType = .logOffUser ∧ request.username = party ∧ waiting = some request.userRequestId
  | some (.zombie, _) | none => True

attribute [grind =] Awaits Answers

structure Accounted (router : Router) : Prop where
  issued : ∀ request ∈ router.asked, Issued router.lastRequest request.userRequestId
  distinct : ∀ request ∈ router.asked, ∀ other ∈ router.asked,
    request.userRequestId = other.userRequestId → request = other
  registered : ∀ id session, router.pending id = some session →
    Issued router.lastRequest id ∧ session ≤ router.lastSession
  waits : ∀ session, router.waiting session ≠ none → session ≤ router.lastSession
  kept : ∀ request ∈ router.asked, request.userRequestId ∉ router.answered →
    router.pending request.userRequestId ≠ none
  awaits : ∀ request ∈ router.asked, request.userRequestId ∉ router.answered → ∀ session,
    router.pending request.userRequestId = some session →
    Awaits (router.session session) (router.waiting session) request
  idle : ∀ session party, router.session session = some (.waitingLogon, party) ∨
    router.session session = some (.ready, party) → router.waiting session = none
  owners : ∀ session, router.owner session ≠ none → session ≤ router.lastSession
  unrouted : ∀ session party, router.session session = some (.waitingLogon, party) ∨
    router.session session = some (.waitingCreateRoute, party) → router.owner session = none

/-- A live session waits for one user request. -/
theorem awaited_unique {router : Router}
    (awaits : ∀ request ∈ router.asked, request.userRequestId ∉ router.answered → ∀ session,
      router.pending request.userRequestId = some session →
      Awaits (router.session session) (router.waiting session) request)
    {session : Nat} {state : Client.State} {party : String} {left right : UserRequest}
    (held : router.session session = some (state, party)) (alive : state ≠ .zombie)
    (askedLeft : left ∈ router.asked) (openLeft : left.userRequestId ∉ router.answered)
    (pendingLeft : router.pending left.userRequestId = some session)
    (askedRight : right ∈ router.asked) (openRight : right.userRequestId ∉ router.answered)
    (pendingRight : router.pending right.userRequestId = some session) :
    left.userRequestId = right.userRequestId := by
  have first := awaits left askedLeft openLeft session pendingLeft
  have second := awaits right askedRight openRight session pendingRight
  rw [held] at first second
  cases state with
  | waitingLogon => exact first.elim
  | ready => exact first.elim
  | waitingCreateRoute => exact Option.some.inj (first.2.2.symm.trans second.2.2)
  | waitingRemoveRoute => exact Option.some.inj (first.2.2.symm.trans second.2.2)
  | zombie => exact absurd rfl alive

private theorem awaits_answered {router : Router}
    (awaits : ∀ request ∈ router.asked, request.userRequestId ∉ router.answered → ∀ session,
      router.pending request.userRequestId = some session →
      Awaits (router.session session) (router.waiting session) request)
    {id username : String} {session : Nat} {state : Client.State} {party : String}
    (answers : router.Answers id username) (asker : router.pending id = some session)
    (held : router.session session = some (state, party)) (sessions : Nat → Option (Client.State × String))
    (others : ∀ other, other ≠ session → sessions other = router.session other)
    (dead : state = .zombie → sessions session = router.session session)
    (request : UserRequest) (asked : request ∈ router.asked)
    (unanswered : request.userRequestId ∉ router.answered ++ [id]) (other : Nat)
    (pending : Function.update router.pending id none request.userRequestId = some other) :
    Awaits (sessions other) (Function.update router.waiting session none other) request := by
  obtain ⟨answer, askedAnswer, rfl, -, openAnswer⟩ := answers
  have unansweredBefore : request.userRequestId ∉ router.answered := by simp_all
  have different : request.userRequestId ≠ answer.userRequestId := by simp_all
  have pendingBefore : router.pending request.userRequestId = some other := by simpa [different] using pending
  by_cases same : other = session
  · subst other
    have zombie : state = .zombie := by
      by_contra alive
      exact different (awaited_unique awaits held alive asked unansweredBefore pendingBefore
        askedAnswer openAnswer asker)
    rw [dead zombie, held, zombie]
    trivial
  · rw [others other same, Function.update_of_ne same]
    exact awaits request asked unansweredBefore other pendingBefore

theorem next_free {router : Router}
    (registered : ∀ id session, router.pending id = some session →
      Issued router.lastRequest id ∧ session ≤ router.lastSession) : router.pending router.nextId = none := by
  cases taken : router.pending router.nextId with
  | none => rfl
  | some session => exact absurd (registered _ _ taken).1 (not_issued_next _)

private theorem ne_nextId {router : Router} {request : UserRequest}
    (issued : Issued router.lastRequest request.userRequestId) :
    request.userRequestId ≠ router.nextId := by
  intro same
  rw [same] at issued
  exact not_issued_next _ issued

/-- Asking again never reuses an id. -/
private theorem distinct_step {before after : Router} {action : Action} (step : Step before action after)
    (issued : ∀ request ∈ before.asked, Issued before.lastRequest request.userRequestId)
    (distinct : ∀ request ∈ before.asked, ∀ other ∈ before.asked,
      request.userRequestId = other.userRequestId → request = other) :
    ∀ request ∈ after.asked, ∀ other ∈ after.asked, request.userRequestId = other.userRequestId → request = other := by
  have asking {type : UserRequestType} {username : String} :
      ∀ request ∈ before.asked ++ [⟨before.nextId, type, username⟩],
        ∀ other ∈ before.asked ++ [⟨before.nextId, type, username⟩],
        request.userRequestId = other.userRequestId → request = other := by
    intro request asked other askedOther same
    rw [List.mem_append, List.mem_singleton] at asked askedOther
    obtain earlier | rfl := asked
    · obtain earlierOther | rfl := askedOther
      · exact distinct request earlier other earlierOther same
      · exact absurd same (ne_nextId (issued request earlier))
    · obtain earlierOther | rfl := askedOther
      · exact absurd same.symm (ne_nextId (issued other earlierOther))
      · rfl
  cases step with
  | logOn | logOff | retireAsking => exact asking
  | _ => exact distinct

private theorem awaits_asked {router : Router} {sessions : Nat → Option (Client.State × String)}
    {waiting : Nat → Option String} (issued : ∀ request ∈ router.asked, Issued router.lastRequest request.userRequestId)
    (free : router.pending router.nextId = none)
    (awaits : ∀ request ∈ router.asked, request.userRequestId ∉ router.answered → ∀ session,
      router.pending request.userRequestId = some session → Awaits (sessions session) (waiting session) request)
    {asker : Nat} {type : UserRequestType} {username : String}
    (asking : Awaits (sessions asker) (waiting asker) ⟨router.nextId, type, username⟩) :
    ∀ request ∈ router.asked ++ [⟨router.nextId, type, username⟩], request.userRequestId ∉ router.answered →
      ∀ session, emplace router.pending router.nextId asker request.userRequestId = some session →
      Awaits (sessions session) (waiting session) request := by
  intro request asked unanswered session pending
  rw [emplace_of_none free] at pending
  rw [List.mem_append, List.mem_singleton] at asked
  obtain earlier | rfl := asked
  · rw [Function.update_of_ne (ne_nextId (issued request earlier))] at pending
    exact awaits request earlier unanswered session pending
  · rw [Function.update_self] at pending
    cases pending
    exact asking

private theorem awaits_zombie (party : String) (waiting : Option String) (request : UserRequest) :
    Awaits (some (.zombie, party)) waiting request := trivial

private theorem awaits_step {before after : Router} {action : Action} (step : Step before action after)
    (sound : before.Sound) (accounted : before.Accounted) :
    ∀ request ∈ after.asked, request.userRequestId ∉ after.answered → ∀ session,
      after.pending request.userRequestId = some session →
      Awaits (after.session session) (after.waiting session) request := by
  obtain ⟨known, -, -, -⟩ := sound
  obtain ⟨issued, -, registered, -, -, awaits, -, -, -⟩ := accounted
  have free := next_free registered
  -- one session changes, and what it was asked about holds of it or nothing was
  have moved {other : Nat} {value : Client.State × String} {waiting : Nat → Option String}
      (settled : ∀ request, Awaits (before.session other) (before.waiting other) request →
        Awaits (some value) (waiting other) request)
      (others : ∀ session, session ≠ other → waiting session = before.waiting session) :
      ∀ request ∈ before.asked, request.userRequestId ∉ before.answered → ∀ session,
        before.pending request.userRequestId = some session →
        Awaits (Function.update before.session other (some value) session) (waiting session) request := by
    intro request asked unanswered session pending
    have expected := awaits request asked unanswered session pending
    by_cases same : session = other
    · subst other
      rw [Function.update_self]
      exact settled request expected
    · rw [Function.update_of_ne same, others session same]
      exact expected
  have kept {other : Nat} : ∀ session, session ≠ other → before.waiting session = before.waiting session :=
    fun _ _ => rfl
  have updated {other : Nat} {id : Option String} : ∀ session, session ≠ other →
      Function.update before.waiting other id session = before.waiting session :=
    fun _ different => Function.update_of_ne different ..
  have unasked {session : Nat} {party : String} {waiting : Option String} {request : UserRequest} {goal : Prop}
      (held : before.session session = some (.waitingLogon, party) ∨ before.session session = some (.ready, party))
      (expected : Awaits (before.session session) waiting request) : goal := by
    obtain held | held := held
    all_goals
      rw [held] at expected
      exact expected.elim
  cases step with
  | grant answers asker held =>
    exact awaits_answered awaits answers asker held _ (fun _ other => Function.update_of_ne other ..)
      fun zombie => by simp [zombie, held]
  | refuse answers asker held => exact awaits_answered awaits answers asker held _ (fun _ _ => rfl) fun _ => rfl
  | settle answers asker held => exact awaits_answered awaits answers asker held _ (fun _ _ => rfl) fun _ => rfl
  | accept =>
    simp only [emplace_of_none (next_absent known)]
    intro request asked unanswered session pending
    have bound := (registered _ session pending).2
    have older : session ≠ before.lastSession + 1 := by omega
    rw [Function.update_of_ne older]
    exact awaits request asked unanswered session pending
  | nominate arriving => exact moved (fun _ => unasked (Or.inl arriving)) kept
  | logOn arriving =>
    refine awaits_asked issued free (moved (fun _ => unasked (Or.inl arriving)) updated) ?_
    rw [Function.update_self, Function.update_self]
    exact ⟨rfl, rfl, rfl⟩
  | logOff ready =>
    refine awaits_asked issued free (moved (fun _ => unasked (Or.inr ready)) updated) ?_
    rw [Function.update_self, Function.update_self]
    exact ⟨rfl, rfl, rfl⟩
  | strand =>
    intro request asked unanswered session pending
    have older := (emplace_of_ne _ (ne_nextId (issued request asked))).symm.trans pending
    exact moved (fun _ _ => awaits_zombie ..) updated request asked unanswered session older
  | drop | retire => exact moved (fun _ _ => awaits_zombie ..) kept
  | retireAsking =>
    refine awaits_asked issued free (moved (fun _ _ => awaits_zombie ..) fun _ => emplace_of_ne _) ?_
    rw [Function.update_self]
    exact awaits_zombie ..
  | late =>
    intro request asked unanswered session pending
    rw [List.mem_append, not_or] at unanswered
    exact awaits request asked unanswered.1 session pending
  | sweep =>
    intro request asked unanswered session pending
    simp only
    split
    · trivial
    · exact awaits request asked unanswered session pending
  | _ => exact awaits

theorem issued_step {before after : Router} {action : Action} {id : String} (step : Step before action after)
    (issued : Issued before.lastRequest id) : Issued after.lastRequest id := by
  cases step <;> first | exact issued | exact issued.mono

private theorem asked_issued {before after : Router} {action : Action} (step : Step before action after)
    (issued : ∀ request ∈ before.asked, Issued before.lastRequest request.userRequestId) :
    ∀ request ∈ after.asked, Issued after.lastRequest request.userRequestId := by
  have older : ∀ request ∈ before.asked, Issued after.lastRequest request.userRequestId :=
    fun request asked => issued_step step (issued request asked)
  have asking {type : UserRequestType} {username : String} :
      ∀ request ∈ before.asked ++ [⟨before.nextId, type, username⟩],
        Issued (before.lastRequest + 1) request.userRequestId := by
    intro request asked
    obtain earlier | latest := List.mem_append.mp asked
    · exact (issued request earlier).mono
    · rw [List.mem_singleton.mp latest]
      exact issued_next _
  cases step with
  | logOn | logOff | retireAsking => exact asking
  | _ => exact older

private theorem registered_step {before after : Router} {action : Action} (step : Step before action after)
    (known : ∀ session, before.session session ≠ none → session ≤ before.lastSession)
    (registered : ∀ id session, before.pending id = some session →
      Issued before.lastRequest id ∧ session ≤ before.lastSession) :
    ∀ id session, after.pending id = some session → Issued after.lastRequest id ∧ session ≤ after.lastSession := by
  have older : ∀ id session, before.pending id = some session →
      Issued (before.lastRequest + 1) id ∧ session ≤ before.lastSession :=
    fun id session pending => ⟨(registered id session pending).1.mono, (registered id session pending).2⟩
  have asking {asker : Nat} {value : Client.State × String} (held : before.session asker = some value) :
      ∀ id session, emplace before.pending before.nextId asker id = some session →
        Issued (before.lastRequest + 1) id ∧ session ≤ before.lastSession := by
    intro id session pending
    rw [emplace_of_none (next_free registered)] at pending
    by_cases latest : id = before.nextId
    · subst id
      rw [Function.update_self] at pending
      cases pending
      exact ⟨issued_next _, known asker (by simp [held])⟩
    · rw [Function.update_of_ne latest] at pending
      exact older id session pending
  have answered {answer : String} : ∀ id session, Function.update before.pending answer none id = some session →
      Issued before.lastRequest id ∧ session ≤ before.lastSession := by
    intro id session pending
    by_cases same : id = answer
    · subst id
      rw [Function.update_self] at pending
      cases pending
    · rw [Function.update_of_ne same] at pending
      exact registered id session pending
  cases step with
  | accept =>
    intro id session pending
    exact ⟨(registered id session pending).1, Nat.le_succ_of_le (registered id session pending).2⟩
  | allocate | openFresh => exact older
  | logOn held | strand held | logOff held | retireAsking held => exact asking held
  | grant | refuse | settle => exact answered
  | _ => exact registered

theorem kept_step {before after : Router} {action : Action} (step : Step before action after)
    (kept : ∀ request ∈ before.asked, request.userRequestId ∉ before.answered →
      before.pending request.userRequestId ≠ none) :
    ∀ request ∈ after.asked, request.userRequestId ∉ after.answered → after.pending request.userRequestId ≠ none := by
  have emplaced {id : String} {asker : Nat} (registered : before.pending id ≠ none ∨ id = before.nextId) :
      emplace before.pending before.nextId asker id ≠ none := by
    rw [emplace_apply]
    split
    · exact Option.some_ne_none _
    · next older => exact registered.resolve_right older
  have asking {asker : Nat} {type : UserRequestType} {username : String} :
      ∀ request ∈ before.asked ++ [⟨before.nextId, type, username⟩], request.userRequestId ∉ before.answered →
        emplace before.pending before.nextId asker request.userRequestId ≠ none := by
    intro request asked unanswered
    obtain earlier | latest := List.mem_append.mp asked
    · exact emplaced (Or.inl (kept request earlier unanswered))
    · rw [List.mem_singleton.mp latest]
      exact emplaced (Or.inr rfl)
  have answered {answer : String} : ∀ request ∈ before.asked, request.userRequestId ∉ before.answered ++ [answer] →
      before.pending request.userRequestId ≠ none ∧ request.userRequestId ≠ answer := by
    intro request asked unanswered
    rw [List.mem_append, List.mem_singleton, not_or] at unanswered
    exact ⟨kept request asked unanswered.1, unanswered.2⟩
  cases step with
  | logOn | logOff | retireAsking => exact asking
  | strand => exact fun request asked unanswered => emplaced (Or.inl (kept request asked unanswered))
  | grant | refuse | settle =>
    intro request asked unanswered
    obtain ⟨pending, different⟩ := answered request asked unanswered
    exact (Function.update_of_ne different ..).trans_ne pending
  | late => exact fun request asked unanswered => (answered request asked unanswered).1
  | _ => exact kept

private theorem waits_step {before after : Router} {action : Action} (step : Step before action after)
    (known : ∀ session, before.session session ≠ none → session ≤ before.lastSession)
    (waits : ∀ session, before.waiting session ≠ none → session ≤ before.lastSession) :
    ∀ session, after.waiting session ≠ none → session ≤ after.lastSession := by
  have changed {asker : Nat} {value : Client.State × String} {id : Option String}
      (held : before.session asker = some value) :
      ∀ session, Function.update before.waiting asker id session ≠ none → session ≤ before.lastSession := by
    intro session waiting
    by_cases same : session = asker
    · exact known session (by simp [same, held])
    · rw [Function.update_of_ne same] at waiting
      exact waits session waiting
  cases step with
  | accept => exact fun session waiting => Nat.le_succ_of_le (waits session waiting)
  | logOn held | strand held | logOff held | retireAsking held | grant _ _ held | refuse _ _ held
  | settle _ _ held => exact changed held
  | _ => exact waits

theorem idle_step {before after : Router} {action : Action} (step : Step before action after)
    (known : ∀ session, before.session session ≠ none → session ≤ before.lastSession)
    (waits : ∀ session, before.waiting session ≠ none → session ≤ before.lastSession)
    (idle : ∀ session party, before.session session = some (.waitingLogon, party) ∨
      before.session session = some (.ready, party) → before.waiting session = none) :
    ∀ session party, after.session session = some (.waitingLogon, party) ∨
      after.session session = some (.ready, party) → after.waiting session = none := by
  have moved {other : Nat} {value : Client.State × String} {waiting : Nat → Option String}
      (settled : value.1 = .waitingLogon ∨ value.1 = .ready → waiting other = none)
      (others : ∀ session, session ≠ other → before.waiting session = none → waiting session = none) :
      ∀ session party, Function.update before.session other (some value) session = some (.waitingLogon, party) ∨
        Function.update before.session other (some value) session = some (.ready, party) → waiting session = none := by
    intro session party held
    by_cases same : session = other
    · subst other
      rw [Function.update_self, Option.some.injEq, Option.some.injEq] at held
      exact settled (held.imp (congrArg Prod.fst) (congrArg Prod.fst))
    · rw [Function.update_of_ne same] at held
      exact others session same (idle session party held)
  have kept {other : Nat} : ∀ session, session ≠ other → before.waiting session = none → before.waiting session = none :=
    fun _ _ waiting => waiting
  have updated {other : Nat} {id : Option String} : ∀ session, session ≠ other → before.waiting session = none →
      Function.update before.waiting other id session = none :=
    fun _ different waiting => (Function.update_of_ne different ..).trans waiting
  have answered {other : Nat} : ∀ session party, before.session session = some (.waitingLogon, party) ∨
      before.session session = some (.ready, party) → Function.update before.waiting other none session = none := by
    intro session party held
    by_cases same : session = other
    · rw [same, Function.update_self]
    · exact updated session same (idle session party held)
  cases step with
  | accept =>
    simp only [emplace_of_none (next_absent known)]
    refine moved (fun _ => ?_) kept
    by_contra waiting
    have bound := waits _ waiting
    omega
  | nominate arriving => exact moved (fun _ => idle _ _ (Or.inl arriving)) kept
  | drop | retire => exact moved (by simp) kept
  | logOn | strand | logOff | retireAsking => exact moved (by simp) updated
  | grant => exact moved (fun _ => Function.update_self ..) updated
  | refuse | settle => exact answered
  | sweep =>
    intro session party held
    simp only at held
    split at held
    · simp at held
    · exact idle session party held
  | _ => exact idle

private theorem owners_step {before after : Router} {action : Action} (step : Step before action after)
    (known : ∀ session, before.session session ≠ none → session ≤ before.lastSession)
    (owners : ∀ session, before.owner session ≠ none → session ≤ before.lastSession) :
    ∀ session, after.owner session ≠ none → session ≤ after.lastSession := by
  have changed {other : Nat} {value : Client.State × String} {username : Option String}
      (held : before.session other = some value) :
      ∀ session, Function.update before.owner other username session ≠ none → session ≤ before.lastSession := by
    intro session owned
    by_cases same : session = other
    · exact known session (by simp [same, held])
    · rw [Function.update_of_ne same] at owned
      exact owners session owned
  have erased {route : Option Nat} : ∀ session, (if route = some session then none else before.owner session) ≠ none →
      session ≤ before.lastSession := by
    intro session owned
    split at owned
    · exact absurd rfl owned
    · exact owners session owned
  cases step with
  | accept => exact fun session owned => Nat.le_succ_of_le (owners session owned)
  | retire held | retireAsking held | grant _ _ held => exact changed held
  | refuse | late => exact erased
  | _ => exact owners

private theorem unrouted_step {before after : Router} {action : Action} (step : Step before action after)
    (known : ∀ session, before.session session ≠ none → session ≤ before.lastSession)
    (awaits : ∀ request ∈ before.asked, request.userRequestId ∉ before.answered → ∀ session,
      before.pending request.userRequestId = some session →
      Awaits (before.session session) (before.waiting session) request)
    (owners : ∀ session, before.owner session ≠ none → session ≤ before.lastSession)
    (unrouted : ∀ session party, before.session session = some (.waitingLogon, party) ∨
      before.session session = some (.waitingCreateRoute, party) → before.owner session = none) :
    ∀ session party, after.session session = some (.waitingLogon, party) ∨
      after.session session = some (.waitingCreateRoute, party) → after.owner session = none := by
  have moved {other : Nat} {value : Client.State × String} {owner : Nat → Option String}
      (free : value.1 = .waitingLogon ∨ value.1 = .waitingCreateRoute → owner other = none)
      (others : ∀ session, session ≠ other → before.owner session = none → owner session = none) :
      ∀ session party, Function.update before.session other (some value) session = some (.waitingLogon, party) ∨
        Function.update before.session other (some value) session = some (.waitingCreateRoute, party) →
        owner session = none := by
    intro session party held
    by_cases same : session = other
    · subst other
      rw [Function.update_self, Option.some.injEq, Option.some.injEq] at held
      exact free (held.imp (congrArg Prod.fst) (congrArg Prod.fst))
    · rw [Function.update_of_ne same] at held
      exact others session same (unrouted session party held)
  have kept {other : Nat} : ∀ session, session ≠ other → before.owner session = none → before.owner session = none :=
    fun _ _ free => free
  have updated {other : Nat} {username : Option String} : ∀ session, session ≠ other → before.owner session = none →
      Function.update before.owner other username session = none :=
    fun _ different free => (Function.update_of_ne different ..).trans free
  have erased {route : Option Nat} : ∀ session party, before.session session = some (.waitingLogon, party) ∨
      before.session session = some (.waitingCreateRoute, party) →
      (if route = some session then none else before.owner session) = none := by
    intro session party held
    rw [unrouted session party held, ite_self]
  cases step with
  | accept =>
    simp only [emplace_of_none (next_absent known)]
    refine moved (fun _ => ?_) kept
    by_contra owned
    have bound := owners _ owned
    omega
  | nominate arriving => exact moved (fun _ => unrouted _ _ (Or.inl arriving)) kept
  | logOn arriving => exact moved (fun _ => unrouted _ _ (Or.inl arriving)) kept
  | strand | drop | logOff => exact moved (by simp) kept
  | retire | retireAsking => exact moved (by simp) updated
  | @grant _ _ session state party answers asker held =>
    -- a request is never pending for a session that has not asked
    obtain ⟨answer, asked, rfl, -, unanswered⟩ := answers
    have asking := awaits answer asked unanswered session asker
    rw [held] at asking
    refine moved (fun early => ?_) updated
    by_cases creating : state = .waitingCreateRoute
    · simp [creating] at early
    · obtain rfl : state = .waitingLogon := by simpa [creating] using early
      exact asking.elim
  | refuse | late => exact erased
  | sweep =>
    intro session party held
    simp only at held
    split at held
    · simp at held
    · exact unrouted session party held
  | _ => exact unrouted

theorem accounted_step {before after : Router} {action : Action} (step : Step before action after)
    (sound : before.Sound) (accounted : before.Accounted) : after.Accounted where
  issued := asked_issued step accounted.issued
  distinct := distinct_step step accounted.issued accounted.distinct
  registered := registered_step step sound.known accounted.registered
  waits := waits_step step sound.known accounted.waits
  kept := kept_step step accounted.kept
  awaits := awaits_step step sound accounted
  idle := idle_step step sound.known accounted.waits accounted.idle
  owners := owners_step step sound.known accounted.owners
  unrouted := unrouted_step step sound.known accounted.awaits accounted.owners accounted.unrouted

end FixProxy.Router
