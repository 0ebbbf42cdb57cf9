import FixProxy.Proofs.Intake

/-! The ids that the proxy makes. Each number of the counter goes into one request at most, so
that an answer can belong to one request only. An unsubscribe, which takes up an id that is in
use or gets one that nothing is asked under, is left out. -/

namespace FixProxy
open Codec

/-- The ids are made of numbers after the first up to the last, in their order. -/
def Drawn (first last : Nat) (ids : List String) : Prop :=
  ∃ counters : List Nat, ids = counters.map Shared.requestId ∧ counters.Pairwise (· < ·) ∧
    ∀ counter ∈ counters, first < counter ∧ counter ≤ last

namespace Drawn
variable {first middle last : Nat} {ids later : List String}

theorem nil (first last : Nat) : Drawn first last [] := ⟨[], rfl, .nil, by simp⟩

theorem next (first : Nat) : Drawn first (first + 1) [Shared.requestId (first + 1)] :=
  ⟨[first + 1], rfl, List.pairwise_singleton .., by simp⟩

theorem mono (drawn : Drawn first last ids) {bound : Nat} (grown : last ≤ bound) : Drawn first bound ids := by
  obtain ⟨counters, same, sorted, within⟩ := drawn
  refine ⟨counters, same, sorted, fun counter member => ?_⟩
  have bounds := within counter member
  omega

theorem append (head : Drawn first middle ids) (rest : Drawn middle last later) (start : first ≤ middle) (grown : middle ≤ last) :
    Drawn first last (ids ++ later) := by
  obtain ⟨counters, rfl, sorted, within⟩ := head
  obtain ⟨more, rfl, sortedLater, withinLater⟩ := rest
  refine ⟨counters ++ more, List.map_append.symm, ?_, ?_⟩
  · refine List.pairwise_append.mpr ⟨sorted, sortedLater, fun left earlier right after => ?_⟩
    have bound := within left earlier
    have start := withinLater right after
    omega
  · intro counter member
    rcases List.mem_append.mp member with earlier | after
    · have bounds := within counter earlier
      omega
    · have bounds := withinLater counter after
      omega

theorem nodup (drawn : Drawn first last ids) : ids.Nodup := by
  obtain ⟨counters, rfl, sorted, -⟩ := drawn
  have distinct : counters.Nodup := sorted.imp fun less => Nat.ne_of_lt less
  exact distinct.map fun left right => Shared.requestId_inj

end Drawn

/-- The id that a request brings into use, where it is one of the counter's. -/
def Codec.Request.opens : Request → Option String
  | .securityListRequest value => if value.subscriptionRequestType = .unsubscribe then none else some value.securityReqId
  | .securityDefinitionRequest value => if value.subscriptionRequestType = .unsubscribe then none else some value.securityReqId
  | .securityStatusRequest value =>
    if value.subscriptionRequestType = .unsubscribe then none else some value.securityStatusReqId
  | .marketDataRequest value => if value.subscriptionRequestType = .unsubscribe then none else some value.mdReqId
  | .requestForPositions value => if value.subscriptionRequestType = .unsubscribe then none else some value.posReqId
  | _ => none

def Output.opens : Output → Option String
  | .toServer _ (.userRequest request) => some request.userRequestId
  | .toServer _ (.request request) => request.opens
  | _ => none

namespace Controller
variable {controller middle : Controller} {session : Nat} {request : Request}

/-- What goes upstream comes under the next id, if it brings one into use. -/
def Draws (controller : Controller) (outcome : Outcome Controller) : Prop :=
  outcome.Every fun after => ∀ number request id, after.log = controller.log ++ [.toServer number (.request request)] →
    request.opens = some id →
    id = Shared.requestId (controller.shared.nextRequestId + 1) ∧
      after.shared.nextRequestId = controller.shared.nextRequestId + 1

private theorem draws_of_untold {outcome : Outcome Controller}
    (untold : outcome.Every fun after => ∀ number message, after.log ≠ controller.log ++ [.toServer number message]) :
    Draws controller outcome :=
  untold.mono fun _ untold number request _ log => absurd log (untold number (.request request))

def Untold (reject : Controller → Controller) : Prop :=
  ∀ controller number message, (reject controller).log ≠ controller.log ++ [.toServer number message]

private theorem untold_dispatchToClient (response : Response) (session : Nat) :
    Untold (dispatchToClient response session) := by
  intro controller number message
  unfold dispatchToClient
  split
  · simp
  · split
    · unfold sendToClient
      split <;> simp
    · simp

theorem Untold.drawn {reject : Controller → Controller} (untold : Untold reject) :
    Untold fun controller => reject controller.createRequestId.2 :=
  fun controller => untold controller.createRequestId.2

private theorem Untold.draws {reject : Controller → Controller} (untold : Untold reject) :
    Draws controller (.done (reject controller)) :=
  draws_of_untold (untold controller)

private theorem draws_passed {sent : Request} {next : Controller → Outcome Controller} (log : middle.log = controller.log)
    (drawn : ∀ id, sent.opens = some id → id = Shared.requestId (controller.shared.nextRequestId + 1) ∧
      middle.shared.nextRequestId = controller.shared.nextRequestId + 1)
    (enters : ∀ state : Controller, (next state).Every fun after => after.log = state.log ∧ after.shared = state.shared) :
    Draws controller ((middle.dispatchToServer (.request sent)).andThen next) := by
  unfold dispatchToServer
  split
  · rw [Outcome.andThen_done]
    refine (enters _).mono fun after entered number request id logged opens => ?_
    obtain ⟨told, shared⟩ := entered
    have same : request = sent := by
      rw [told, sendToServer, log] at logged
      simp at logged
      exact logged.2.symm
    subst same
    rw [shared]
    exact drawn id opens
  · refine draws_of_untold fun number message same => ?_
    rw [log] at same
    simp at same

theorem Draws.touch {name : MappingName} {outcome : Outcome Controller}
    (draws : Draws (controller.touch name session) outcome) : Draws controller outcome := draws

/-- A request that ends a subscription brings nothing into use. -/
def Closing (type : SubscriptionRequestType) (exists_ : Option String) : Prop := exists_.isSome → type = .unsubscribe

private theorem subscription_draws {name : MappingName} {reqId : String} {isValid : Bool} {type : SubscriptionRequestType}
    {invalid unknown duplicate missing : Controller → Controller}
    {dispatch : Option String → Bool → Controller → Outcome Controller} (untoldInvalid : Untold invalid)
    (untoldUnknown : Untold unknown) (untoldDuplicate : Untold duplicate) (untoldMissing : Untold missing)
    (dispatches : ∀ exists_ keepAlive controller, Closing type exists_ → Draws controller (dispatch exists_ keepAlive controller)) :
    Draws controller
      (subscription name session reqId isValid type invalid unknown duplicate missing dispatch controller) := by
  unfold subscription
  split
  · exact untoldInvalid.draws
  · refine Draws.touch (?_ : Draws (controller.touch name session) _)
    simp only
    cases type with
    | undefined | unknown => exact untoldUnknown.draws
    | snapshot | snapshotUpdates =>
      simp only
      split
      · exact untoldDuplicate.draws
      · next none => exact dispatches _ _ _ fun some => absurd some none
    | unsubscribe =>
      simp only
      split
      · exact dispatches _ _ _ fun _ => rfl
      · exact untoldMissing.draws

private theorem shared_removeReqId (name : MappingName) (reqId : String) (controller : Controller) :
    (controller.removeReqId name reqId).shared = controller.shared := by
  unfold removeReqId
  split
  · rfl
  · simp only
    split <;> rfl

private theorem dispatchSubscription_draws {name : MappingName} {reqId : String} {sent : String → Request}
    {exists_ : Option String} {keepAlive : Bool} (opens : ∀ serverId id, (sent serverId).opens = some id → id = serverId) :
    Draws controller (dispatchSubscription name session reqId sent exists_ keepAlive controller) := by
  refine @draws_passed controller controller.createRequestId.2 _ _ rfl (fun id opened => ⟨opens _ id opened, rfl⟩)
    fun state => ?_
  split
  · exact ⟨log_removeReqId .., shared_removeReqId ..⟩
  · exact ⟨rfl, rfl⟩

private theorem dispatchPositions_draws (value : RequestForPositions) {exists_ : Option String} {keepAlive : Bool}
    (closing : Closing (getSubscriptionRequestType value.subscriptionRequestType) exists_) :
    Draws controller (dispatchPositions session value exists_ keepAlive controller) := by
  unfold dispatchPositions
  cases exists_ with
  | none =>
    refine @draws_passed controller controller.createRequestId.2 _ _ rfl (fun id opened => ⟨?_, rfl⟩) fun state => ⟨rfl, rfl⟩
    simp only [Request.opens, Option.ite_none_left_eq_some, Option.some.injEq] at opened
    exact opened.2.symm
  | some requestId =>
    have ends : value.subscriptionRequestType = .unsubscribe := by
      have type := closing rfl
      revert type
      cases value.subscriptionRequestType <;> simp [getSubscriptionRequestType]
    refine draws_passed rfl (fun id opened => ?_) fun state => ?_
    · simp [Request.opens, ends] at opened
    · simp only [Option.isSome_some, if_true]
      split
      · exact ⟨rfl, rfl⟩
      · trivial

private theorem eq_of_opened {ends : Prop} [Decidable ends] {serverId id : String}
    (opened : (if ends then none else some serverId) = some id) : id = serverId := by
  split at opened
  · cases opened
  · exact (Option.some.inj opened).symm

private theorem request_draws (request : Request) (kind : request.key.1.Fresh) :
    Draws controller (Controller.request request session controller) := by
  cases request with
  | securityListRequest value =>
    have untold : Untold (rejectSecurityListRequest value session) := fun controller =>
      untold_dispatchToClient _ session controller.createRequestId.2
    exact subscription_draws untold untold untold untold fun _ _ _ _ =>
      dispatchSubscription_draws fun _ _ => eq_of_opened
  | securityDefinitionRequest value =>
    have untold : Untold (rejectSecurityDefinitionRequest value session) := fun controller =>
      untold_dispatchToClient _ session controller.createRequestId.2
    exact subscription_draws untold untold untold untold fun _ _ _ _ =>
      dispatchSubscription_draws fun _ _ => eq_of_opened
  | securityStatusRequest value =>
    have untold : Untold (rejectSecurityStatusRequest value session) := untold_dispatchToClient _ session
    exact subscription_draws untold untold untold untold fun _ _ _ _ =>
      dispatchSubscription_draws fun _ _ => eq_of_opened
  | marketDataRequest value =>
    have untold reason text : Untold (rejectMarketDataRequest value session reason text) :=
      untold_dispatchToClient _ session
    exact subscription_draws (untold _ _) (untold _ _) (untold _ _) (untold _ _) fun _ _ _ _ =>
      dispatchSubscription_draws fun _ _ => eq_of_opened
  | requestForPositions value =>
    have untold text : Untold (rejectRequestForPositions value session text) := fun controller =>
      untold_dispatchToClient _ session controller.createRequestId.2
    exact subscription_draws (untold _) (untold _) (untold _) (untold _) fun _ _ _ closing =>
      dispatchPositions_draws value closing
  | _ => exact kind.elim

end Controller

private theorem Codec.Request.fresh_of_opens {request : Request} {id : String} (opens : request.opens = some id) :
    request.key.1.Fresh := by
  cases request <;> trivial

private theorem Codec.Request.opens_of_parting {request : Request} (parting : (ToServer.request request).Parting) :
    request.opens = none := by
  cases request with
  | marketDataRequest value => exact if_pos parting
  | _ => exact parting.elim

namespace Router

/-- The user requests that have been asked since some state have the numbers drawn since. -/
structure DrawnSince (first router : Router) : Prop where
  later : first.lastRequest ≤ router.lastRequest
  asked : ∃ news, router.asked = first.asked ++ news ∧
    Drawn first.lastRequest router.lastRequest (news.map (·.userRequestId))

private theorem drawnSince_step {first before after : Router} {action : Action} (step : Step before action after)
    (since : DrawnSince first before) : DrawnSince first after := by
  obtain ⟨later, news, asked, drawn⟩ := since
  have grown := lastRequest_step step
  refine ⟨Nat.le_trans later grown, ?_⟩
  have asking {type : UserRequestType} {username : String} :
      ∃ more, before.asked ++ [⟨before.nextId, type, username⟩] = first.asked ++ more ∧
        Drawn first.lastRequest (before.lastRequest + 1) (more.map (·.userRequestId)) := by
    refine ⟨news ++ [⟨before.nextId, type, username⟩], by rw [asked, List.append_assoc], ?_⟩
    rw [List.map_append]
    exact drawn.append (.next _) later (Nat.le_succ _)
  cases step with
  | logOn | logOff | retireAsking => exact asking
  | _ => exact ⟨news, asked, drawn.mono grown⟩

theorem DrawnSince.refl (router : Router) : DrawnSince router router :=
  ⟨Nat.le_refl _, [], (List.append_nil _).symm, .nil ..⟩

end Router

namespace World
variable {env : Env} {users : Map String (String × Nat)} {realtime : Nat} {before after world : World} {input : Input}
  {inputs : List Input} {session : Nat} {client : Client.Session}

/-- The ids that have been brought into use upstream, oldest first. -/
def opened (world : World) : List String := world.controller.log.filterMap Output.opens

private theorem opened_append {outputs : List Output} (log : after.controller.log = before.controller.log ++ outputs) :
    after.opened = before.opened ++ outputs.filterMap Output.opens := by
  rw [opened, log, List.filterMap_append, opened]

private theorem draws_step {clock : Clock} {header : Header} {request sent : Request} {number : Nat} {id : String}
    (step : Step env before (.read session clock header (.request request)) after) (consistent : before.view.Consistent)
    (held : before.session session = some client) (ready : client.state = .ready) (kind : request.key.1.Fresh)
    (log : after.controller.log = before.controller.log ++ [.toServer number (.request sent)]) (opens : sent.opens = some id) :
    id = before.view.nextId ∧ after.view.lastRequest = before.view.lastRequest + 1 := by
  have performed := step.performed
  rw [FixProxy.step, Client.read_ready request held ready] at performed
  obtain ⟨seen, found, state, -⟩ : ∃ seen,
      (Client.received header session before.controller).sessions.find session = some seen ∧ seen.state = client.state ∧
        seen.partyId = client.partyId := Client.received_find held
  rcases @Client.request_refused env _ session seen header request found (state.trans ready) with
    ⟨refId, reason, text, refused⟩ | ⟨-, passed⟩
  · rw [refused, Outcome.recover_done, Outcome.done.injEq] at performed
    have refuses : before.Refuses session (.request request) after := refuses_of_sent held performed rfl
    obtain ⟨⟨other, reply, -, replied⟩, -⟩ := refuses
    rw [log] at replied
    simp at replied
  · have upstream : before.controller.serverSession.state = .ready :=
      consistent.sound.connected session .ready client.partyId (ready ▸ view_session held) trivial
    have disposed := @Controller.request_disposed _ session seen seen.partyId ⟨found, state.trans ready, upstream⟩
      (request.stamped (Client.ownParties seen)) fun named same => by
        rw [Client.stamped_parties same]
        exact Client.getClientFromParties_own seen.partyId
    have kind : (request.stamped (Client.ownParties seen)).key.1.Fresh := by cases request <;> exact kind
    have draws := @Controller.request_draws (Client.received header session before.controller) session _ kind
    rw [passed] at performed
    cases outcome : Controller.request (request.stamped (Client.ownParties seen)) session
        (Client.received header session before.controller) with
    | done last =>
      rw [outcome, Outcome.recover_done, Outcome.done.injEq] at performed
      rw [outcome, performed] at draws
      exact draws number sent id log opens
    | thrown what last =>
      rw [outcome] at disposed
      exact disposed.elim
    | fatal what =>
      rw [outcome] at performed
      cases performed

private theorem opened_asked {outputs : List Output} (log : after.controller.log = before.controller.log ++ outputs)
    (unopened : ∀ number request, .toServer number (.request request) ∈ outputs → request.opens = none) :
    ∃ news, after.view.asked = before.view.asked ++ news ∧ after.opened = before.opened ++ news.map (·.userRequestId) := by
  refine ⟨outputs.filterMap Output.userRequest?, asked_append log, ?_⟩
  rw [opened_append log, List.map_filterMap]
  congr 1
  refine List.filterMap_congr fun output member => ?_
  cases output with
  | toServer number message =>
    cases message with
    | request request => exact unopened number request member
    | _ => rfl
  | _ => rfl

private theorem opened_step (step : Step env before input after) (reachable : Reachable env before) :
    before.view.lastRequest ≤ after.view.lastRequest ∧
      ∃ ids, after.opened = before.opened ++ ids ∧ Drawn before.view.lastRequest after.view.lastRequest ids := by
  have consistent := consistent_of_reachable reachable
  obtain ⟨later, asked⟩ := (step.moves consistent).preserves (Router.DrawnSince before.view)
    (fun _ _ _ _ moved => Router.drawnSince_step moved) (.refl _)
  refine ⟨later, ?_⟩
  -- the user requests of the event
  have users {outputs : List Output} (log : after.controller.log = before.controller.log ++ outputs)
      (unopened : ∀ number request, .toServer number (.request request) ∈ outputs → request.opens = none) :
      ∃ ids, after.opened = before.opened ++ ids ∧ Drawn before.view.lastRequest after.view.lastRequest ids := by
    obtain ⟨news, extended, opened⟩ := opened_asked log unopened
    obtain ⟨others, same, drawn⟩ := asked
    obtain rfl := List.append_cancel_left (extended.symm.trans same)
    exact ⟨_, opened, drawn⟩
  by_cases asks : ∃ session client clock header request, input = .read session clock header (.request request) ∧
      before.session session = some client ∧ client.state = .ready
  · obtain ⟨session, client, clock, header, request, rfl, held, ready⟩ := asks
    rcases step.disposes consistent held ready with forwards | ⟨⟨number, reply, -, told⟩, -⟩
    · obtain ⟨_, same, number, serverId, log⟩ := forwards
      cases same
      cases opens : (((request.stamped (Client.ownParties client)).renamed client.partyId serverId)).opens with
      | none =>
        refine users log fun other sent member => ?_
        cases List.mem_singleton.mp member
        exact opens
      | some id =>
        have kind : request.key.1.Fresh := by
          have fresh := Codec.Request.fresh_of_opens opens
          cases request <;> exact fresh
        obtain ⟨rfl, drawn⟩ := draws_step step consistent held ready kind log opens
        refine ⟨[before.view.nextId], ?_, drawn ▸ .next _⟩
        rw [opened_append log]
        simp [Output.opens, opens]
    · exact users told fun other sent member => by simp at member
  · obtain ⟨outputs, log, kinds⟩ := step.adds reachable
    refine users log fun number request member => ?_
    rcases kinds _ _ member with own | ⟨session, client, deed, held, scene, sends, -⟩
    · exact own.elim
    · cases sends with
      | pass =>
        cases scene with
        | ends ends => exact ends.elim
        | pass ready read => exact absurd ⟨_, _, _, _, _, read, held, ready⟩ asks
      | part ends parting => exact Codec.Request.opens_of_parting parting

/-- No number of the counter is used twice: over every run, the user requests and the requests
for securities, market data and positions go upstream under ids that are all different, made of
increasing numbers of the counter. -/
theorem ids_used_once (runs : Runs env users realtime inputs world) :
    world.opened.Nodup ∧ Drawn realtime world.controller.shared.nextRequestId world.opened := by
  have drawn : realtime ≤ world.view.lastRequest ∧ Drawn realtime world.view.lastRequest world.opened := by
    refine runs.history (fun _ world => realtime ≤ world.view.lastRequest ∧ Drawn realtime world.view.lastRequest world.opened)
      ⟨Nat.le_refl _, .nil ..⟩ ?_
    intro earlier input before after run step drawn
    obtain ⟨start, drawn⟩ := drawn
    obtain ⟨grown, ids, opened, more⟩ := opened_step step ⟨users, realtime, earlier, run⟩
    refine ⟨Nat.le_trans start grown, ?_⟩
    rw [opened]
    exact drawn.append more start grown
  exact ⟨drawn.2.nodup, drawn.2⟩

/-- The logon of a client and its subscription have gone upstream under ids of their own. -/
theorem ids_used_once_subscribed : ∃ world logon subscription,
    RunsUnder Regular Deployment.env Deployment.users 0 Deployment.subscribed world ∧
      world.opened = [logon, subscription] ∧ logon ≠ subscription := by
  obtain ⟨world, runs, checked⟩ := exists_run_of_replay Regular Deployment.env Deployment.users 0 Deployment.subscribed
    (fun world => world.opened.length == 2) (by decide +kernel)
  obtain ⟨logon, subscription, two⟩ := List.length_eq_two.mp (beq_iff_eq.mp checked)
  have distinct := (ids_used_once (runs_of_runsUnder runs)).1
  rw [two] at distinct
  exact ⟨world, logon, subscription, runs, two, by simpa using distinct⟩

end World
end FixProxy
