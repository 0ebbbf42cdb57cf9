import FixProxy.Proofs.Reachable

/-! User requests as they are asked: each on behalf of one session, for which it is then
pending until it is answered. -/

namespace FixProxy
open Codec
open Router (Closes)

/-- The answer that an action is the effect of. -/
def Action.Settles (id : String) : Action → Prop
  | .grant other _ _ | .refuse other _ _ | .settle other _ _ => other = id
  | _ => False

namespace Router
variable {before after : Router} {action : Action}

/-- What an action asks of upstream, and for whom. -/
inductive Asks (before : Router) : Action → Nat → UserRequest → Prop where
  | logOn {session : Nat} {party : String} :
      Asks before (.logOn session party) session ⟨before.nextId, .logOnUser, party⟩
  | logOff {session : Nat} {party : String} (ready : before.session session = some (.ready, party)) :
      Asks before (.logOff session) session ⟨before.nextId, .logOffUser, party⟩
  | retire {session : Nat} {username : String} (owned : before.owner session = some username) :
      Asks before (.retireAsking session username) session ⟨before.nextId, .logOffUser, username⟩

theorem Asks.id {session : Nat} {request : UserRequest} (asks : Asks before action session request) :
    request.userRequestId = before.nextId := by
  cases asks <;> rfl

private theorem asked_step (step : Step before action after) (accounted : before.Accounted) :
    after.asked = before.asked ∨ ∃ session request, Asks before action session request ∧
      after.asked = before.asked ++ [request] ∧
      after.pending = Function.update before.pending request.userRequestId (some session) := by
  have fresh := emplace_of_none (next_free accounted.registered)
  cases step with
  | logOn arriving => exact Or.inr ⟨_, _, .logOn, rfl, fresh _⟩
  | logOff ready => exact Or.inr ⟨_, _, .logOff ready, rfl, fresh _⟩
  | retireAsking held active owned => exact Or.inr ⟨_, _, .retire owned, rfl, fresh _⟩
  | _ => exact Or.inl rfl

private theorem pending_step (step : Step before action after) {id : String} (issued : Issued before.lastRequest id)
    (unsettled : ¬ action.Settles id) : after.pending id = before.pending id := by
  have old : id ≠ before.nextId := by
    rintro rfl
    exact not_issued_next _ issued
  cases step with
  | logOn | strand | logOff | retireAsking => simp [emplace_apply, old]
  | grant | refuse | settle => exact Function.update_of_ne (Ne.symm unsettled) ..
  | _ => rfl

theorem lastRequest_step (step : Step before action after) : before.lastRequest ≤ after.lastRequest := by
  cases step <;> first | exact Nat.le_refl _ | exact Nat.le_succ _

private theorem issued_le {first last : Nat} (later : first ≤ last) {id : String} (issued : Issued first id) :
    Issued last id := by
  obtain ⟨counter, bound, rfl⟩ := issued
  exact ⟨counter, Nat.le_trans bound later, rfl⟩

/-- The requests asked since some state are new, and pending for the sessions they were
asked for. -/
structure AskedSince (first : Router) (behalf : Nat → UserRequest → Prop) (router : Router) : Prop where
  later : first.lastRequest ≤ router.lastRequest
  asked : ∀ request ∈ router.asked, request ∈ first.asked ∨ ¬ Issued first.lastRequest request.userRequestId ∧
    ∃ session, behalf session request ∧ router.pending request.userRequestId = some session

theorem AskedSince.refl (behalf : Nat → UserRequest → Prop) (router : Router) : AskedSince router behalf router :=
  ⟨Nat.le_refl _, fun _ => Or.inl⟩

private theorem askedSince_step {first : Router} {behalf : Nat → UserRequest → Prop} (step : Step before action after)
    (accounted : before.Accounted) (since : AskedSince first behalf before)
    (settles : ∀ id, action.Settles id → before = first)
    (own : ∀ session request, Asks before action session request → behalf session request) :
    AskedSince first behalf after := by
  have kept request (asked : request ∈ before.asked) : request ∈ first.asked ∨
      ¬ Issued first.lastRequest request.userRequestId ∧
        ∃ session, behalf session request ∧ after.pending request.userRequestId = some session := by
    rcases since.asked request asked with old | ⟨fresh, session, for_, pending⟩
    · exact Or.inl old
    · by_cases settled : action.Settles request.userRequestId
      · exact Or.inl (settles _ settled ▸ asked)
      · refine Or.inr ⟨fresh, session, for_, ?_⟩
        rw [pending_step step (accounted.issued request asked) settled, pending]
  refine ⟨Nat.le_trans since.later (lastRequest_step step), fun request asked => ?_⟩
  rcases asked_step step accounted with same | ⟨session, new, asks, extended, pending⟩
  · exact kept request (same ▸ asked)
  · rw [extended] at asked
    rcases List.mem_append.mp asked with old | added
    · exact kept request old
    · obtain rfl := List.mem_singleton.mp added
      refine Or.inr ⟨fun issued => ?_, session, own session request asks, ?_⟩
      · rw [asks.id] at issued
        exact not_issued_next _ (issued_le since.later issued)
      · rw [pending]
        exact Function.update_self ..

theorem answered_step (step : Step before action after)
    (asked : ∀ id ∈ before.answered, ∃ request ∈ before.asked, request.userRequestId = id) :
    ∀ id ∈ after.answered, ∃ request ∈ after.asked, request.userRequestId = id := by
  have answers {id username : String} (answers : before.Answers id username) :
      ∀ other ∈ before.answered ++ [id], ∃ request ∈ before.asked, request.userRequestId = other := by
    intro other member
    rcases List.mem_append.mp member with old | new
    · exact asked other old
    · obtain rfl := List.mem_singleton.mp new
      obtain ⟨request, known, same, -⟩ := answers
      exact ⟨request, known, same⟩
  have extended (last : UserRequest) :
      ∀ id ∈ before.answered, ∃ request ∈ before.asked ++ [last], request.userRequestId = id := by
    intro id member
    obtain ⟨request, known, same⟩ := asked id member
    exact ⟨request, List.mem_append_left _ known, same⟩
  cases step with
  | grant given | refuse given | settle given | late given => exact answers given
  | logOn | logOff | retireAsking => exact extended _
  | _ => exact asked

private theorem nodup_step (step : Step before action after) (accounted : before.Accounted)
    (nodup : (before.asked.map UserRequest.userRequestId).Nodup) : (after.asked.map UserRequest.userRequestId).Nodup := by
  rcases asked_step step accounted with same | ⟨session, request, asks, extended, -⟩
  · exact same ▸ nodup
  · rw [extended, List.map_append, List.map_singleton, asks.id]
    refine List.nodup_append.mpr ⟨nodup, List.nodup_singleton _, fun id old other next => ?_⟩
    obtain rfl := List.mem_singleton.mp next
    rintro rfl
    obtain ⟨known, member, same⟩ := List.mem_map.mp old
    exact not_issued_next _ (same ▸ accounted.issued known member)

private theorem owner_closes {session : Nat} (closes : Closes session action) (step : Step before action after) {other : Nat}
    {username : String} (owned : after.owner other = some username) : before.owner other = some username := by
  have kept (owned : Function.update before.owner session none other = some username) :
      before.owner other = some username := by
    by_cases same : other = session
    · subst other
      simp at owned
    · simpa [same] using owned
  obtain rfl | ends := closes
  · cases step with
    | drop => exact owned
  · cases step with
    | retire => cases ends; exact kept owned
    | retireAsking => cases ends; exact kept owned
    | _ => exact ends.elim

private theorem asks_of_closes {session other : Nat} {request : UserRequest} (closes : Closes session action)
    (asks : Asks before action other request) : other = session ∧ before.owner session = some request.username := by
  obtain rfl | ends := closes
  · cases asks
  · cases asks with
    | retire owned => cases ends; exact ⟨rfl, owned⟩
    | _ => exact ends.elim

end Router

namespace World
variable {env : Env} {before after : World} {input : Input}

/-- The session on whose behalf an event asks something of upstream: the one the event is
about, or, for the timer, which goes through all of them, the one whose client id it is. -/
def OnBehalf (before : World) (input : Input) (session : Nat) (request : UserRequest) : Prop :=
  match input with
  | .read reader _ _ _ | .readError reader | .disconnected reader => session = reader
  | .serverRead _ (.userResponse response) =>
    before.controller.subscriptions.user.serverToClient.find response.userRequestId = some session
  | _ => before.controller.subscriptions.user.sessionToClient.find session = some request.username

theorem onBehalf_unique (consistent : before.view.Consistent) {session other : Nat} {request : UserRequest}
    (first : before.OnBehalf input session request) (second : before.OnBehalf input other request) : session = other := by
  have owners {session other : Nat} {username : String} (first : before.view.owner session = some username)
      (second : before.view.owner other = some username) : session = other :=
    Option.some.inj (((consistent.inverse _ _).mpr first).symm.trans ((consistent.inverse _ _).mpr second))
  cases input with
  | read | readError | disconnected => exact first.trans second.symm
  | serverRead msgSeqNum message =>
    cases message with
    | userResponse response => exact Option.some.inj (first.symm.trans second)
    | _ => exact owners first second
  | _ => exact owners first second

theorem Step.asks (step : Step env before input after) (consistent : before.view.Consistent) :
    Router.AskedSince before.view (before.OnBehalf input) after.view := by
  have moves := step.moves consistent
  -- while sessions are closed, one after another, their routes are still those of before
  have closing (moves : Router.Moves (fun _ action => action = .sweep ∨ action = .unready ∨ action = .lost ∨
        ∃ session, Closes session action) before.view after.view)
      (own : ∀ session request, before.view.owner session = some request.username →
        before.OnBehalf input session request) : Router.AskedSince before.view (before.OnBehalf input) after.view := by
    have both := moves.preserves_consistent (fun router => Router.AskedSince before.view (before.OnBehalf input) router ∧
        ∀ session username, router.owner session = some username → before.view.owner session = some username)
      (fun router action next allowed step consistent ⟨since, owners⟩ => ?_) consistent
      ⟨.refl _ _, fun _ _ => id⟩
    · exact both.1
    · refine ⟨Router.askedSince_step step consistent.accounted since ?_ ?_, ?_⟩
      · intro id settles
        rcases allowed with rfl | rfl | rfl | ⟨session, closes⟩
        · exact settles.elim
        · exact settles.elim
        · exact settles.elim
        · exact absurd closes (not_closes_of_answer (by cases action <;> trivial))
      · intro session request asks
        rcases allowed with rfl | rfl | rfl | ⟨other, closes⟩
        · cases asks
        · cases asks
        · cases asks
        · obtain ⟨rfl, owned⟩ := Router.asks_of_closes closes asks
          exact own _ _ (owners _ _ owned)
      · intro session username owned
        rcases allowed with rfl | rfl | rfl | ⟨other, closes⟩
        · cases step
          exact owners session username owned
        · cases step
          exact owners session username owned
        · cases step
          exact owners session username owned
        · exact owners session username (Router.owner_closes closes step owned)
  -- the actions of an event that is about one session
  have single (settles : ∀ router action id, Caused before input after router action → action.Settles id →
        router = before.view)
      (own : ∀ router action session request, Caused before input after router action →
        Router.Asks router action session request → before.OnBehalf input session request) :
      Router.AskedSince before.view (before.OnBehalf input) after.view :=
    moves.preserves_consistent (Router.AskedSince before.view (before.OnBehalf input))
      (fun router action next caused step consistent since => Router.askedSince_step step consistent.accounted since
        (fun id settled => settles router action id caused settled) fun session request asks =>
          own router action session request caused asks) consistent (.refl _ _)
  have closes {session : Nat} (about : ∀ other request, other = session → before.OnBehalf input other request)
      (caused : ∀ router action, Caused before input after router action → Closes session action) :
      Router.AskedSince before.view (before.OnBehalf input) after.view :=
    single (fun router action id cause settles => absurd (caused router action cause)
        (not_closes_of_answer (by cases action <;> trivial)))
      fun router action other request cause asks =>
        about other request (Router.asks_of_closes (caused router action cause) asks).1
  have silent (caused : ∀ router action, Caused before input after router action → ¬ ∃ id, action.Settles id)
      (mute : ∀ router action session request, Caused before input after router action →
        ¬ Router.Asks router action session request) :
      Router.AskedSince before.view (before.OnBehalf input) after.view :=
    single (fun router action id cause settles => absurd ⟨id, settles⟩ (caused router action cause))
      fun router action session request cause asks => absurd asks (mute router action session request cause)
  cases input with
  | timer now =>
    exact closing (moves.mono fun _ _ caused => caused.imp id fun closes => Or.inr (Or.inr closes)) fun _ _ owned => owned
  | serverDisconnected => exact closing (moves.mono fun _ _ caused => Or.inr caused) fun _ _ owned => owned
  | readError session => exact closes (fun _ _ same => same) fun _ _ caused => caused
  | disconnected session => exact closes (fun _ _ same => same) fun _ _ caused => caused
  | read session clock header message =>
    refine single (fun router action id caused settles => ?_) fun router action other request caused asks => ?_
    · have answer : action.Answer := by cases action <;> trivial
      obtain ⟨response, given, -⟩ := caused_answer caused answer
      simp [Input.answer] at given
    · obtain (closing | reads) | preliminary := caused
      · exact (Router.asks_of_closes closing asks).1
      · cases message with
        | logon value =>
          cases asks with
          | logOn =>
            obtain wrong | ⟨_, wrong⟩ | ⟨_, same⟩ | wrong := reads
            · cases wrong
            · cases wrong
            · cases same
              rfl
            · cases wrong
          | logOff => simp [Client.LogsOn] at reads
          | retire => simp [Client.LogsOn] at reads
        | logout =>
          cases asks with
          | logOff =>
            cases reads
            rfl
          | _ => cases reads
        | request value => cases asks <;> exact reads.elim
        | _ => exact reads.elim
      · cases asks <;> exact preliminary.elim
  | serverRead msgSeqNum message =>
    cases message with
    | userResponse response =>
      refine single (fun router action id caused settles => ?_) fun router action other request caused asks => ?_
      · cases action with
        | grant => exact caused.1
        | refuse => exact caused.1
        | settle => exact caused.1
        | _ => exact settles.elim
      · obtain ⟨session, pending, closing⟩ : ∃ session,
            before.view.pending response.userRequestId = some session ∧ Closes session action := by
          cases asks <;> exact caused
        obtain ⟨rfl, -⟩ := Router.asks_of_closes closing asks
        exact pending
    | logon =>
      refine silent (fun router action caused settled => ?_) fun router action session request caused asks => ?_
      · cases caused
        exact settled.choose_spec
      · cases caused
        cases asks
    | response value =>
      refine silent (fun router action caused settled => ?_) fun router action session request caused asks => ?_
      · have answer : action.Answer := by
          obtain ⟨id, settles⟩ := settled
          cases action <;> trivial
        obtain ⟨response, given, -⟩ := caused_answer caused answer
        simp [Input.answer] at given
      · cases asks <;> exact caused
    | _ => exact silent (fun _ _ caused => caused.elim) fun _ _ _ _ caused => caused.elim
  | accept =>
    refine silent (fun router action caused settled => ?_) fun router action session request caused asks => ?_
    · cases caused
      exact settled.choose_spec
    · cases caused
      cases asks
  | serverConnected =>
    refine silent (fun router action caused settled => ?_) fun router action session request caused asks => ?_
    · cases caused
      exact settled.choose_spec
    · cases caused
      cases asks
  | _ => exact silent (fun _ _ caused => caused.elim) fun _ _ _ _ caused => caused.elim

theorem Step.pending (step : Step env before input after) (consistent : before.view.Consistent) {id : String}
    (issued : Issued before.view.lastRequest id) (unanswered : ∀ response ∈ input.answer, response.userRequestId ≠ id) :
    after.view.pending id = before.view.pending id := by
  have both := (step.moves consistent).preserves
    (fun router => Issued router.lastRequest id ∧ router.pending id = before.view.pending id)
    (fun router action next caused moved ⟨issued, same⟩ => ?_) ⟨issued, rfl⟩
  · exact both.2
  · refine ⟨Router.issued_le (Router.lastRequest_step moved) issued, ?_⟩
    refine (Router.pending_step moved issued fun settles => ?_).trans same
    have answer : action.Answer := by cases action <;> trivial
    obtain ⟨response, given, answering⟩ := caused_answer caused answer
    apply unanswered response given
    cases action with
    | grant | refuse | settle =>
      rw [← answering.2.1]
      exact settles
    | _ => exact settles.elim

theorem answered_of_reachable (reachable : Reachable env before) :
    ∀ id ∈ before.answered, ∃ request ∈ before.view.asked, request.userRequestId = id := by
  obtain ⟨users, realtime, inputs, run⟩ := reachable
  have both := run.preserves (fun world => world.view.Consistent ∧
      ∀ id ∈ world.view.answered, ∃ request ∈ world.view.asked, request.userRequestId = id)
    (fun step ⟨consistent, asked⟩ => ⟨step.consistent consistent,
      (step.moves consistent).preserves _ (fun _ _ _ _ moved asked => Router.answered_step moved asked) asked⟩)
    ⟨consistent_create users realtime, fun _ member => nomatch member⟩
  exact both.2

/-- No id is asked twice. -/
theorem nodup_of_reachable (reachable : Reachable env before) :
    (before.view.asked.map UserRequest.userRequestId).Nodup := by
  obtain ⟨users, realtime, inputs, run⟩ := reachable
  have both := run.preserves (fun world => world.view.Consistent ∧ (world.view.asked.map UserRequest.userRequestId).Nodup)
    (fun step ⟨consistent, nodup⟩ => ⟨step.consistent consistent,
      (step.moves consistent).preserves_consistent (fun router => (router.asked.map UserRequest.userRequestId).Nodup)
        (fun _ _ _ _ moved consistent => Router.nodup_step moved consistent.accounted) consistent nodup⟩)
    ⟨consistent_create users realtime, List.nodup_nil⟩
  exact both.2

end World
end FixProxy
