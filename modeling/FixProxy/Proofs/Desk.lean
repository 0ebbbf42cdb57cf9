import FixProxy.Lib.Pairing
import FixProxy.Proofs.Asks
import FixProxy.Proofs.Conduct

/-! The log-on and log-off requests on one upstream connection, beside the routes. A client
id is held there while a session owns its route, and what waits for an answer tells who is
about to take it. -/

namespace FixProxy
open Codec
open Exchange (Phase Standing queue)
open Router (Moves Closes)

/-- What a user request is about. -/
def Codec.UserRequest.exchange (request : UserRequest) : Option (Exchange String String) :=
  match request.userRequestType with
  | .logOnUser => some (.take request.username request.userRequestId)
  | .logOffUser => some (.give request.username request.userRequestId)
  | .other => none

/-- Every status but `LOGGED_IN` is a refusal. -/
def Codec.UserResponse.exchange (response : UserResponse) : Exchange String String :=
  .answer response.userRequestId (response.userStatus = .loggedIn)

theorem Codec.UserRequest.exchange_cases {request : UserRequest} {exchange : Exchange String String}
    (same : request.exchange = some exchange) :
    exchange = .take request.username request.userRequestId ∧ request.userRequestType = .logOnUser ∨
      exchange = .give request.username request.userRequestId ∧ request.userRequestType = .logOffUser := by
  unfold Codec.UserRequest.exchange at same
  cases type : request.userRequestType with
  | logOnUser =>
    simp only [type, Option.some.injEq] at same
    exact Or.inl ⟨same.symm, rfl⟩
  | logOffUser =>
    simp only [type, Option.some.injEq] at same
    exact Or.inr ⟨same.symm, rfl⟩
  | other => simp [type] at same

theorem Codec.UserRequest.id_of_exchange {request : UserRequest} {exchange : Exchange String String}
    (same : request.exchange = some exchange) : exchange.id = request.userRequestId := by
  rcases exchange_cases same with ⟨rfl, -⟩ | ⟨rfl, -⟩
  · rfl
  · rfl

private theorem Codec.UserRequest.about_of_exchange {request : UserRequest} {exchange : Exchange String String}
    (same : request.exchange = some exchange) : exchange.About request.username := by
  rcases exchange_cases same with ⟨rfl, -⟩ | ⟨rfl, -⟩
  · exact rfl
  · exact rfl

namespace Router
variable {before after : Router} {action : Action} {talk : List (Exchange String String)} {phases : String → Phase String}

/-- The client ids as the sessions have them and as the connection has them. -/
structure Desk (router : Router) (talk : List (Exchange String String)) (phases : String → Phase String) : Prop where
  standing : ∀ party, Standing party talk (phases party)
  ready : ∀ session party, router.session session = some (.ready, party) →
    phases party = .held ∧ router.owner session = some party
  held : ∀ party, phases party = .held → ∃ session, router.owner session = some party
  leaving : ∀ session party, router.session session = some (.waitingRemoveRoute, party) →
    router.owner session = none ∨ router.owner session = some party ∧ phases party = .free
  asked : ∀ exchange ∈ queue talk, ∃ request ∈ router.asked, request.exchange = some exchange ∧
    request.userRequestId ∉ router.answered
  distinct : ((queue talk).map Exchange.id).Nodup

theorem Desk.fresh (desk : before.Desk talk phases) (accounted : before.Accounted) :
    ∀ exchange ∈ queue talk, exchange.id ≠ before.nextId := by
  intro exchange member same
  obtain ⟨request, asked, shape, -⟩ := desk.asked exchange member
  rw [UserRequest.id_of_exchange shape] at same
  exact not_issued_next _ (same ▸ accounted.issued request asked)

theorem Desk.more (desk : before.Desk talk phases) (accounted : before.Accounted) {request : UserRequest}
    {exchange : Exchange String String} (shape : request.exchange = some exchange) (new : request.userRequestId = before.nextId)
    (unanswered : before.nextId ∉ before.answered) {longer : List (Exchange String String)}
    (queued : queue longer = queue talk ++ [exchange]) (asked : after.asked = before.asked ++ [request])
    (answered : after.answered = before.answered) :
    (∀ exchange ∈ queue longer, ∃ request ∈ after.asked, request.exchange = some exchange ∧
      request.userRequestId ∉ after.answered) ∧ ((queue longer).map Exchange.id).Nodup := by
  have id : exchange.id = before.nextId := (UserRequest.id_of_exchange shape).trans new
  rw [queued, asked, answered]
  constructor
  · intro other member
    rcases List.mem_append.mp member with old | last
    · obtain ⟨request, known, same, waits⟩ := desk.asked other old
      exact ⟨request, List.mem_append_left _ known, same, waits⟩
    · obtain rfl := List.mem_singleton.mp last
      exact ⟨request, List.mem_append_right _ (List.mem_singleton.mpr rfl), shape, new ▸ unanswered⟩
  · rw [List.map_append, List.map_singleton, id, List.nodup_append]
    refine ⟨desk.distinct, List.nodup_singleton _, fun first member other last same => ?_⟩
    obtain ⟨exchange, waiting, rfl⟩ := List.mem_map.mp member
    exact desk.fresh accounted exchange waiting (same.trans (List.mem_singleton.mp last))

section Oldest
variable {id username : String} {oldest : Exchange String String} {rest : List (Exchange String String)}

theorem Desk.request (desk : before.Desk talk phases) (accounted : before.Accounted) (answers : before.Answers id username)
    (first : queue talk = oldest :: rest) (same : oldest.id = id) :
    ∃ request ∈ before.asked, request.exchange = some oldest ∧ request.userRequestId = id ∧ request.username = username ∧
      id ∉ before.answered := by
  obtain ⟨request, known, shape, -⟩ := desk.asked oldest (by simp [first])
  obtain ⟨answer, asked, answerId, name, unanswered⟩ := answers
  have requestId := UserRequest.id_of_exchange shape
  obtain rfl := accounted.distinct request known answer asked (by rw [← requestId, same, answerId])
  exact ⟨request, known, shape, answerId, name, unanswered⟩

theorem Desk.apart (desk : before.Desk talk phases) (first : queue talk = oldest :: rest) :
    ∀ other ∈ rest, other.id ≠ oldest.id := by
  intro other member same
  have distinct := desk.distinct
  rw [first, List.map_cons, List.nodup_cons] at distinct
  exact distinct.1 (List.mem_map.mpr ⟨other, member, same⟩)

theorem Desk.asking (desk : before.Desk talk phases) (first : queue talk = oldest :: rest) {party : String}
    (asking : phases party = .asked oldest.id) : oldest = .take party oldest.id := by
  have standing := desk.standing party
  rw [asking] at standing
  have member := standing.asking
  rw [first] at member
  rcases List.mem_cons.mp member with here | later
  · exact here.symm
  · exact absurd rfl (desk.apart first (.take party oldest.id) later)

end Oldest

theorem Desk.answer (desk : before.Desk talk phases) (accounted : before.Accounted) {id username : String} (granted : Bool)
    (answers : before.Answers id username) {oldest : Exchange String String} {rest : List (Exchange String String)}
    (first : queue talk = oldest :: rest) (same : oldest.id = id)
    (asked : after.asked = before.asked) (answered : after.answered = before.answered ++ [id])
    (ready : ∀ session party, after.session session = some (.ready, party) →
      before.session session = some (.ready, party) ∨
        phases party = .asked id ∧ granted = true ∧ after.owner session = some party)
    (leaving : ∀ session party, after.session session = some (.waitingRemoveRoute, party) →
      before.session session = some (.waitingRemoveRoute, party) ∧
        (after.owner session = none ∨ after.owner session = before.owner session))
    (kept : ∀ session party, before.owner session = some party → party ≠ username → after.owner session = some party)
    (taken : granted = true → ∀ party, phases party = .asked id → ∃ session, after.owner session = some party) :
    after.Desk (talk ++ [.answer id granted]) fun party => (phases party).settled id granted := by
  obtain ⟨request, -, shape, -, rfl, -⟩ := desk.request accounted answers first same
  subst same
  have apart := desk.apart first
  have settled : queue (talk ++ [.answer oldest.id granted]) = rest := by
    rw [Exchange.queue_answer, first, List.filter_cons_of_neg (by simp), List.filter_eq_self]
    exact fun other member => decide_eq_true (apart other member)
  -- the answered client id was not held
  have idle : phases request.username ≠ .held := by
    intro held
    have clear := (desk.standing request.username).clear
    rw [held] at clear
    exact clear oldest (by simp [first]) (UserRequest.about_of_exchange shape)
  have holds {party : String} (held : phases party = .held) : (phases party).settled oldest.id granted = .held := by
    simp [Phase.settled, held]
  constructor
  · exact fun party => Exchange.standing_answer (desk.standing party) first apart granted
  · intro session party found
    rcases ready session party found with old | ⟨asking, rfl, owned⟩
    · obtain ⟨held, owned⟩ := desk.ready session party old
      refine ⟨holds held, kept session party owned ?_⟩
      rintro rfl
      exact idle held
    · exact ⟨by simp [Phase.settled, asking], owned⟩
  · intro party held
    by_cases asking : phases party = .asked oldest.id
    · cases granted with
      | true => exact taken rfl party asking
      | false => simp [Phase.settled, asking] at held
    · simp only [Phase.settled, asking, if_false] at held
      obtain ⟨session, owned⟩ := desk.held party held
      refine ⟨session, kept session party owned ?_⟩
      rintro rfl
      exact idle held
  · intro session party found
    obtain ⟨old, disowned | still⟩ := leaving session party found
    · exact Or.inl disowned
    · rw [still]
      refine (desk.leaving session party old).imp id fun owned => ⟨owned.1, ?_⟩
      simp [Phase.settled, owned.2]
  · rw [settled, asked, answered]
    intro exchange member
    obtain ⟨request, known, shape, waits⟩ := desk.asked exchange (by simp [first, member])
    refine ⟨request, known, shape, fun spent => ?_⟩
    rcases List.mem_append.mp spent with old | new
    · exact waits old
    · exact apart exchange member ((UserRequest.id_of_exchange shape).trans (List.mem_singleton.mp new))
  · rw [settled]
    have distinct := desk.distinct
    rw [first, List.map_cons, List.nodup_cons] at distinct
    exact distinct.2

theorem Desk.quiet (desk : before.Desk talk phases)
    (ready : ∀ session party, after.session session = some (.ready, party) → before.session session = some (.ready, party))
    (leaving : ∀ session party, after.session session = some (.waitingRemoveRoute, party) →
      before.session session = some (.waitingRemoveRoute, party))
    (owner : after.owner = before.owner) (asked : after.asked = before.asked) (answered : after.answered = before.answered) :
    after.Desk talk phases where
  standing := desk.standing
  ready session party found := owner ▸ desk.ready session party (ready session party found)
  held party held := owner ▸ desk.held party held
  leaving session party found := owner ▸ desk.leaving session party (leaving session party found)
  asked := by
    rw [asked, answered]
    exact desk.asked
  distinct := desk.distinct

theorem Desk.take (desk : before.Desk talk phases) (accounted : before.Accounted) {party : String}
    (free : phases party = .free) (unowned : ∀ session, before.owner session ≠ some party)
    (unanswered : before.nextId ∉ before.answered)
    (ready : ∀ session party, after.session session = some (.ready, party) → before.session session = some (.ready, party))
    (leaving : ∀ session party, after.session session = some (.waitingRemoveRoute, party) →
      before.session session = some (.waitingRemoveRoute, party))
    (owner : after.owner = before.owner) (asked : after.asked = before.asked ++ [⟨before.nextId, .logOnUser, party⟩])
    (answered : after.answered = before.answered) :
    after.Desk (talk ++ [.take party before.nextId]) (Function.update phases party (.asked before.nextId)) := by
  have more := @Desk.more before after talk phases desk accounted ⟨before.nextId, .logOnUser, party⟩ _ rfl rfl unanswered
    (talk ++ [.take party before.nextId]) (Exchange.queue_take ..) asked answered
  refine ⟨fun other => ?_, fun session other found => ?_, fun other held => ?_, fun session other found => ?_, more.1, more.2⟩
  · by_cases same : other = party
    · subst other
      rw [Function.update_self]
      exact Exchange.standing_take (free ▸ desk.standing party) _
    · rw [Function.update_of_ne same]
      exact (Exchange.standing_apart (desk.standing other) (Ne.symm same) _).1
  · obtain ⟨held, owned⟩ := desk.ready session other (ready session other found)
    have different : other ≠ party := by
      rintro rfl
      rw [free] at held
      cases held
    rw [Function.update_of_ne different, owner]
    exact ⟨held, owned⟩
  · by_cases same : other = party
    · subst other
      simp at held
    · rw [Function.update_of_ne same] at held
      exact owner ▸ desk.held other held
  · rw [owner]
    refine (desk.leaving session other (leaving session other found)).imp id fun owned => ⟨owned.1, ?_⟩
    have different : other ≠ party := by
      rintro rfl
      exact unowned session owned.1
    rw [Function.update_of_ne different]
    exact owned.2

theorem Desk.give (desk : before.Desk talk phases) (accounted : before.Accounted) (inverse : before.Inverse) {session : Nat}
    {party : String} (ready : before.session session = some (.ready, party)) (unanswered : before.nextId ∉ before.answered)
    (others : ∀ other, other ≠ session → after.session other = before.session other ∧ after.owner other = before.owner other)
    (own : ∀ state name, after.session session = some (state, name) →
      state = .zombie ∨ state = .waitingRemoveRoute ∧ name = party ∧ after.owner session = before.owner session)
    (asked : after.asked = before.asked ++ [⟨before.nextId, .logOffUser, party⟩])
    (answered : after.answered = before.answered) :
    after.Desk (talk ++ [.give party before.nextId]) (Function.update phases party .free) := by
  have more := @Desk.more before after talk phases desk accounted ⟨before.nextId, .logOffUser, party⟩ _ rfl rfl unanswered
    (talk ++ [.give party before.nextId]) (Exchange.queue_give ..) asked answered
  obtain ⟨held, owned⟩ := desk.ready session party ready
  have alone {other : Nat} (owns : before.owner other = some party) : other = session :=
    Option.some.inj (((inverse _ _).mpr owns).symm.trans ((inverse _ _).mpr owned))
  refine ⟨fun other => ?_, fun other name found => ?_, fun other holds => ?_, fun other name found => ?_, more.1, more.2⟩
  · by_cases same : other = party
    · subst other
      rw [Function.update_self]
      exact Exchange.standing_give (held ▸ desk.standing party) _
    · rw [Function.update_of_ne same]
      exact (Exchange.standing_apart (desk.standing other) (Ne.symm same) _).2
  · by_cases same : other = session
    · subst other
      rcases own _ _ found with zombie | ⟨leaving, -⟩
      · cases zombie
      · cases leaving
    · rw [(others other same).1] at found
      obtain ⟨holds, owns⟩ := desk.ready other name found
      have different : name ≠ party := by
        rintro rfl
        exact same (alone owns)
      rw [Function.update_of_ne different, (others other same).2]
      exact ⟨holds, owns⟩
  · by_cases same : other = party
    · subst other
      simp at holds
    · rw [Function.update_of_ne same] at holds
      obtain ⟨holder, owns⟩ := desk.held other holds
      refine ⟨holder, ?_⟩
      rw [(others holder ?_).2]
      · exact owns
      · rintro rfl
        rw [owned] at owns
        cases owns
        exact same rfl
  · by_cases same : other = session
    · subst other
      rcases own _ _ found with zombie | ⟨-, rfl, kept⟩
      · cases zombie
      · exact Or.inr ⟨kept.trans owned, Function.update_self ..⟩
    · rw [(others other same).1] at found
      rw [(others other same).2]
      refine (desk.leaving other name found).imp id fun owns => ⟨owns.1, ?_⟩
      have different : name ≠ party := by
        rintro rfl
        rw [held] at owns
        cases owns.2
      rw [Function.update_of_ne different]
      exact owns.2

private theorem desk_step (step : Step before action after) (consistent : before.Consistent) (up : before.ready = true)
    (spent : ∀ id ∈ before.answered, ∃ request ∈ before.asked, request.userRequestId = id) (quiet : ¬ action.Answer)
    (single : ∀ session party, action = .logOn session party → ∀ request ∈ queue talk, ¬ request.Takes party)
    (parts : ∀ session username, action = .retireAsking session username →
      ∃ party, before.session session = some (.ready, party))
    (desk : before.Desk talk phases) :
    ∃ new phases', after.asked = before.asked ++ new ∧
      after.Desk (talk ++ new.filterMap UserRequest.exchange) phases' := by
  have accounted := consistent.accounted
  have unanswered : before.nextId ∉ before.answered := by
    intro early
    obtain ⟨request, asked, same⟩ := spent _ early
    exact not_issued_next _ (same ▸ accounted.issued request asked)
  have still (same : after.asked = before.asked) (kept : after.Desk talk phases) :
      ∃ new phases', after.asked = before.asked ++ new ∧ after.Desk (talk ++ new.filterMap UserRequest.exchange) phases' :=
    ⟨[], phases, by simp [same], by simpa using kept⟩
  by_cases departs : ∃ session, action = .logOff session
  · obtain ⟨session, rfl⟩ := departs
    cases step with
    | @logOff _ party ready =>
      refine ⟨_, _, rfl, desk.give accounted consistent.inverse ready unanswered (fun other different => ?_)
        (fun state name found => ?_) rfl rfl⟩
      · exact ⟨Function.update_of_ne different .., rfl⟩
      · simp only [Function.update_self, Option.some.injEq, Prod.mk.injEq] at found
        exact Or.inr ⟨found.1.symm, found.2.symm, rfl⟩
  · have origin := origin_step step quiet (fun session same => departs ⟨session, same⟩) (Origin.refl before fun _ => False)
    have ready := origin.ready
    have leaving session party found := (origin.leaving session party found).resolve_right fun wrong => wrong.2
    cases step with
    | @logOn session party arriving plain unlocked =>
      have unowned holder : before.owner holder ≠ some party := by
        intro owns
        rw [(consistent.inverse party holder).mpr owns] at unlocked
        cases unlocked
      have free : phases party = .free := by
        cases phase : phases party with
        | free => rfl
        | held =>
          obtain ⟨holder, owns⟩ := desk.held party phase
          exact absurd owns (unowned holder)
        | asked id =>
          have standing := desk.standing party
          rw [phase] at standing
          exact absurd rfl (single session party rfl _ standing.asking)
      exact ⟨_, _, rfl, desk.take accounted free unowned unanswered ready leaving rfl rfl rfl⟩
    | @retireAsking session state party username held active owned =>
      obtain ⟨name, found⟩ := parts session username rfl
      obtain ⟨-, owns⟩ := desk.ready session name found
      rw [owned] at owns
      cases owns
      refine ⟨_, _, rfl, desk.give accounted consistent.inverse found unanswered (fun other different => ?_)
        (fun state name found => ?_) rfl rfl⟩
      · exact ⟨Function.update_of_ne different .., Function.update_of_ne different ..⟩
      · simp only [Function.update_self, Option.some.injEq, Prod.mk.injEq] at found
        exact Or.inl found.1.symm
    | @retire session state party held active silent =>
      have unowned : before.owner session = none := by
        rcases silent with unowned | down
        · exact unowned
        · rw [up] at down
          cases down
      have same : Function.update before.owner session none = before.owner := by
        rw [← unowned]
        exact Function.update_eq_self ..
      exact still rfl (desk.quiet ready leaving same rfl rfl)
    | logOff => exact absurd ⟨_, rfl⟩ departs
    | grant | refuse | settle | late => exact absurd trivial quiet
    | _ => exact still rfl (desk.quiet ready leaving rfl rfl rfl)

/-- The desk after an answer to the oldest request. What the answer says of the route of a
session that waits for its route to be removed is that it is removed, and no route is
granted to a session that is not held any more. -/
theorem desk_answered (step : Step before action after) (answer : action.Answer) {response : UserResponse}
    (answering : Controller.Answering response before before action) (consistent : before.Consistent)
    (desk : before.Desk talk phases) {oldest : Exchange String String} {rest : List (Exchange String String)}
    (first : queue talk = oldest :: rest) (same : oldest.id = response.userRequestId)
    (removed : ∀ session party, before.pending response.userRequestId = some session →
      before.session session = some (.waitingRemoveRoute, party) → response.userStatus = .notLoggedIn)
    (granted : ∀ session, before.pending response.userRequestId = some session → before.session session = none →
      response.userStatus = .loggedIn → ∀ party, ¬ oldest.Takes party) :
    (∃ phases', after.Desk (talk ++ [response.exchange]) phases') ∧
      ∀ session party, before.pending response.userRequestId = some session →
        after.session session = some (.waitingRemoveRoute, party) → after.owner session = none := by
  have accounted := consistent.accounted
  -- without their routes for the client id that is named, the sessions are as before
  have losing {username : String} : ∀ session party, before.owner session = some party → party ≠ username →
      (if before.route username = some session then none else before.owner session) = some party := by
    intro session party owns different
    rw [if_neg]
    · exact owns
    · intro routed
      rw [(consistent.inverse _ _).mp routed] at owns
      exact different (Option.some.inj owns).symm
  have less {username : String} (session : Nat) :
      (if before.route username = some session then none else before.owner session) = none ∨
        (if before.route username = some session then none else before.owner session) = before.owner session := by
    split
    · exact Or.inl rfl
    · exact Or.inr rfl
  cases step with
  | @grant id username session state party answers asker held free unowned =>
    obtain ⟨-, rfl, rfl, status⟩ := answering
    have shape : response.exchange = .answer response.userRequestId true := by simp [UserResponse.exchange, status]
    obtain ⟨request, known, sent, id, name, unanswered⟩ := desk.request accounted answers first same
    have awaits := accounted.awaits request known (id ▸ unanswered) session (id ▸ asker)
    rw [held] at awaits
    have stays : (if state = .waitingCreateRoute then Client.State.ready else state) ≠ .waitingRemoveRoute := by
      split
      · simp
      · rintro rfl
        have refused := removed session party asker held
        rw [status] at refused
        cases refused
    rw [shape]
    refine ⟨⟨_, desk.answer accounted true answers first same rfl rfl ?_ ?_ ?_ ?_⟩, ?_⟩
    · intro other party' found
      by_cases mine : other = session
      · -- the session that becomes ready has asked for the client id
        subst other
        simp only [Function.update_self, Option.some.injEq, Prod.mk.injEq] at found ⊢
        obtain ⟨ready, rfl⟩ := found
        cases state with
        | waitingCreateRoute =>
          obtain ⟨type, rfl, -⟩ := awaits
          rcases UserRequest.exchange_cases sent with ⟨rfl, -⟩ | ⟨-, wrong⟩
          · have member : Exchange.take request.username request.userRequestId ∈ queue talk := by simp [first]
            refine Or.inr ⟨?_, trivial, name.symm⟩
            rw [← id]
            exact (desk.standing request.username).takes member rfl
          · rw [type] at wrong
            cases wrong
        | ready => exact awaits.elim
        | _ => simp at ready
      · exact Or.inl ((Function.update_of_ne mine ..).symm.trans found)
    · intro other party' found
      by_cases mine : other = session
      · subst other
        simp only [Function.update_self, Option.some.injEq, Prod.mk.injEq] at found
        exact absurd found.1 stays
      · exact ⟨(Function.update_of_ne mine ..).symm.trans found, Or.inr (Function.update_of_ne mine ..)⟩
    · intro other party' owns different
      have apart : other ≠ session := by
        rintro rfl
        rw [unowned] at owns
        cases owns
      exact (Function.update_of_ne apart ..).trans owns
    · intro _ party' asking
      rw [← same] at asking
      have taken := desk.asking first asking
      rcases UserRequest.exchange_cases sent with ⟨given, -⟩ | ⟨given, -⟩
      · rw [given] at taken
        cases taken
        exact ⟨session, name ▸ Function.update_self ..⟩
      · rw [given] at taken
        cases taken
    · intro other party' pending found
      rw [asker] at pending
      cases pending
      simp only [Function.update_self, Option.some.injEq, Prod.mk.injEq] at found
      exact absurd found.1 stays
  | @refuse id username session state party answers asker held =>
    obtain ⟨-, rfl, rfl, status⟩ := answering
    have shape : response.exchange = .answer response.userRequestId false := by simp [UserResponse.exchange, status]
    obtain ⟨request, known, sent, id, name, unanswered⟩ := desk.request accounted answers first same
    have awaits := accounted.awaits request known (id ▸ unanswered) session (id ▸ asker)
    rw [shape]
    refine ⟨⟨_, desk.answer accounted false answers first same rfl rfl (fun _ _ => Or.inl)
      (fun other _ found => ⟨found, less other⟩) losing (fun wrong => absurd wrong Bool.false_ne_true)⟩, ?_⟩
    intro other party' pending found
    rw [asker] at pending
    cases pending
    have leaving : before.session session = some (.waitingRemoveRoute, party') := found
    rw [leaving] at awaits
    obtain ⟨-, rfl, -⟩ := awaits
    rcases desk.leaving session request.username leaving with unowned | ⟨owned, -⟩
    · exact (less session).elim (fun lost => lost) fun kept => kept.trans unowned
    · exact if_pos (name ▸ (consistent.inverse _ _).mpr owned)
  | @settle id username session state party answers asker held =>
    obtain ⟨-, rfl, rfl, status⟩ := answering
    have shape : response.exchange = .answer response.userRequestId false := by simp [UserResponse.exchange, status]
    rw [shape]
    refine ⟨⟨_, desk.answer accounted false answers first same rfl rfl (fun _ _ => Or.inl)
      (fun _ _ found => ⟨found, Or.inr rfl⟩) (fun _ _ owns _ => owns) (fun wrong => absurd wrong Bool.false_ne_true)⟩, ?_⟩
    intro other party' pending found
    have refused := removed other party' pending found
    rw [status] at refused
    cases refused
  | @late id username session answers asker collected =>
    obtain ⟨-, rfl, rfl⟩ := answering
    refine ⟨⟨_, desk.answer accounted (decide (response.userStatus = .loggedIn)) answers first same rfl rfl
      (fun _ _ => Or.inl) (fun other _ found => ⟨found, less other⟩) losing ?_⟩, ?_⟩
    · intro confirmed party asking
      rw [← same] at asking
      have taken := desk.asking first asking
      refine absurd ?_ (granted session asker collected (of_decide_eq_true confirmed) party)
      rw [taken]
      exact rfl
    · intro other party' pending found
      rw [asker] at pending
      cases pending
      have gone : before.session session = some (.waitingRemoveRoute, party') := found
      rw [collected] at gone
      cases gone
  | _ => exact answer.elim

end Router

def Action.Link : Action → Prop
  | .connect | .login | .unready | .lost => True
  | _ => False

namespace Router
variable {before after : Router} {action : Action} {allowed : Router → Action → Prop} {first last : Router}
  {talk : List (Exchange String String)} {phases : String → Phase String}

theorem connect_step (step : Step before .connect after) : after = { before with upstream := .logonSent } := by
  cases step
  rfl

theorem link_step (step : Step before action after) (apart : ¬ action.Link) :
    after.upstream = before.upstream ∧ after.ready = before.ready := by
  cases step with
  | connect | login | unready | lost => exact absurd trivial apart
  | _ => exact ⟨rfl, rfl⟩

/-- Nothing is asked while upstream does not take requests. -/
theorem mute_step (step : Step before action after) (down : before.upstream ≠ .ready) (unready : before.ready = false) :
    after.asked = before.asked := by
  cases step with
  | logOn _ _ _ upstream => exact absurd upstream down
  | logOff _ upstream => exact absurd upstream down
  | retireAsking _ _ _ ready =>
    rw [unready] at ready
    cases ready
  | _ => rfl

theorem desk_moves (moves : Moves allowed first last) (consistent : first.Consistent) (up : first.ready = true)
    (spent : ∀ id ∈ first.answered, ∃ request ∈ first.asked, request.userRequestId = id)
    (steady : ∀ router action next new, allowed router action → Step router action next → router.asked = first.asked ++ new →
      action ≠ .unready ∧ ¬ action.Answer ∧
      (∀ session party, action = .logOn session party →
        ∀ request ∈ queue (talk ++ new.filterMap UserRequest.exchange), ¬ request.Takes party) ∧
      ∀ session username, action = .retireAsking session username →
        ∃ party, router.session session = some (.ready, party))
    (desk : first.Desk talk phases) :
    ∃ new phases', last.asked = first.asked ++ new ∧ last.Desk (talk ++ new.filterMap UserRequest.exchange) phases' ∧
      last.ready = true := by
  have both := moves.preserves (fun router => router.Consistent ∧ router.ready = true ∧
      (∀ id ∈ router.answered, ∃ request ∈ router.asked, request.userRequestId = id) ∧
      ∃ new phases', router.asked = first.asked ++ new ∧
        router.Desk (talk ++ new.filterMap UserRequest.exchange) phases') ?_
    ⟨consistent, up, spent, [], phases, by simp, by simpa using desk⟩
  · obtain ⟨-, up, -, new, phases', asked, kept⟩ := both
    exact ⟨new, phases', asked, kept, up⟩
  · rintro router action next permitted step ⟨consistent, up, spent, new, phases', asked, kept⟩
    obtain ⟨stays, quiet, single, parts⟩ := steady router action next new permitted step asked
    obtain ⟨more, later, extended, settled⟩ := desk_step step consistent up spent quiet single parts kept
    refine ⟨consistent_step step consistent, ?_, answered_step step spent, new ++ more, later, ?_, ?_⟩
    · by_cases link : action.Link
      · cases step with
        | unready => exact absurd rfl stays
        | login => rfl
        | connect => exact up
        | lost unready =>
          rw [up] at unready
          cases unready
        | _ => exact link.elim
      · exact (link_step step link).2.trans up
    · rw [extended, asked, List.append_assoc]
    · rwa [List.filterMap_append, ← List.append_assoc]

end Router

namespace World
variable {env : Env} {before after : World} {input : Input}

theorem caused_link {router : Router} {action : Action} (caused : Caused before input after router action)
    (link : action.Link) :
    input = .serverConnected ∨ input = .serverDisconnected ∨ ∃ msgSeqNum, input = .serverRead msgSeqNum .logon := by
  have lives session : ¬ Closes session action := by
    rintro (rfl | ends)
    · exact link
    · cases action <;> first | exact link | exact ends
  cases input with
  | serverConnected => exact Or.inl rfl
  | serverDisconnected => exact Or.inr (Or.inl rfl)
  | serverRead msgSeqNum message =>
    cases message with
    | logon => exact Or.inr (Or.inr ⟨msgSeqNum, rfl⟩)
    | userResponse value =>
      cases action with
      | connect | login | unready | lost =>
        obtain ⟨session, -, closes⟩ := caused
        exact absurd closes (lives session)
      | _ => exact link.elim
    | response value => cases action <;> first | exact link.elim | exact caused.elim
    | _ => exact caused.elim
  | read session clock header message =>
    obtain (closes | reads) | preliminary := caused
    · exact absurd closes (lives session)
    · cases message <;> cases action <;>
        first | exact link.elim | exact reads.elim | simp [Client.LogsOn] at reads
    · cases action <;> first | exact link.elim | exact preliminary.elim
  | timer now =>
    obtain rfl | ⟨session, closes⟩ := caused
    · exact link.elim
    · exact absurd closes (lives session)
  | readError session => exact absurd caused (lives session)
  | disconnected session => exact absurd caused (lives session)
  | accept => exact absurd link (caused ▸ fun wrong => wrong)
  | _ => exact caused.elim

end World

end FixProxy
