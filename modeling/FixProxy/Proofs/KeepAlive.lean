import FixProxy.Deployment
import FixProxy.Proofs.Gate
import FixProxy.Proofs.Outcomes

/-! Subscriptions with updates. Their entries carry the flag that keeps them through every
answer but a failure; the handler of the position acks does not look at it. The entry of a
trade subscription is also lost to another session of the same party. -/

namespace FixProxy
open Codec

/-- The messages that report failure for a server id. -/
def Codec.Response.Fails (name : MappingName) (serverId : String) : Response → Prop
  | .businessMessageReject value =>
    Controller.businessMessageRejectMapping value.refMsgType = some name ∧ value.businessRejectRefId = serverId
  | .securityList value =>
    name = .securityReqId ∧ value.securityReqId = serverId ∧ value.securityRequestResult ≠ .valid
  | .securityDefinition value =>
    name = .securityReqId ∧ value.securityReqId = serverId ∧
      value.securityResponseType ≠ .acceptSecurityProposalAsIs
  | .marketDataRequestReject value => name = .mdReqId ∧ value.mdReqId = serverId
  | .requestForPositionsAck value =>
    name = .posReqId ∧ value.posReqId = serverId ∧ (value.posReqResult ≠ .valid ∨ value.posReqStatus = .rejected)
  | .positionReport value => name = .posReqId ∧ value.posReqId = serverId ∧ value.posReqResult ≠ .valid
  | .tradeCaptureReportRequestAck value =>
    name = .tradeRequestId ∧ value.tradeRequestId = serverId ∧ value.tradeRequestStatus = .rejected
  | _ => False

def Codec.Response.AnnouncesNothing (serverId : String) : Response → Prop
  | .requestForPositionsAck value => value.posReqId = serverId ∧ value.totalNumPosReports = 0
  | _ => False

theorem fresh_of_typed {request : Request} {type : SubscriptionRequestType}
    (typed : request.subscriptionType = some type) : request.key.1.Fresh ∨ request.key.1 = .tradeRequestId := by
  cases request <;> first | exact Or.inl trivial | exact Or.inr rfl | cases typed

namespace Controller

/-- What drops the entry of a subscription with updates is a failure, or an ack that
announces no position. -/
private theorem fails_of_drops {request : Request} {type : SubscriptionRequestType}
    (typed : request.subscriptionType = some type)
    {reports : Nat} {value : Response} (dropped : value.drops request.key.1 reports true = true) :
    value.Fails request.key.1 (value.id request.key.1) ∨
      request.key.1 = .posReqId ∧ value.AnnouncesNothing (value.id request.key.1) := by
  cases value with
  | businessMessageReject | securityStatus | marketDataSnapshotFullRefresh | marketDataIncrementalRefresh
  | tradeCaptureReportRequestAck | tradeCaptureReport => simp [Response.drops] at dropped
  | securityList value => exact Or.inl (by simpa [Response.drops, Response.Fails, Response.id] using dropped)
  | securityDefinition value => exact Or.inl (by simpa [Response.drops, Response.Fails, Response.id] using dropped)
  | marketDataRequestReject value => exact Or.inl (by simpa [Response.drops, Response.Fails, Response.id] using dropped)
  | positionReport value => exact Or.inl (by simpa [Response.drops, Response.Fails, Response.id] using dropped)
  | requestForPositionsAck value =>
    simp only [Response.drops, Bool.and_eq_true, Bool.or_eq_true, beq_iff_eq, bne_iff_ne] at dropped
    obtain ⟨named, failure | nothing⟩ := dropped
    · exact Or.inl ⟨named, rfl, failure⟩
    · exact Or.inr ⟨named, rfl, nothing⟩
  | orderCancelReject | orderMassCancelReport | executionReport =>
    rcases fresh_of_typed typed with fresh | trades
    · generalize request.key.1 = name at dropped fresh
      cases name <;> first | exact fresh.elim | simp [Response.drops] at dropped
    · simp [Response.drops, trades] at dropped

private theorem tradeCaptureReportRequest_unsubscribe {controller : Controller} {session : Nat} {serverId : String}
    {value : TradeCaptureReportRequest} (type : value.subscriptionRequestType = .unsubscribe)
    (outstanding : controller.findClient .tradeRequestId session value.tradeRequestId = some serverId)
    (upstream : controller.serverSession.state = .ready) :
    ∃ after, Controller.tradeCaptureReportRequest value session controller = .done after ∧
      ∀ id, after.findReqId .tradeRequestId id =
        if value.isValid = true ∧ id = FixProxy.createRequestId (getClientFromParties value.noPartyIds) value.tradeRequestId
        then none else controller.findReqId .tradeRequestId id := by
  unfold tradeCaptureReportRequest subscription
  simp only [type, getSubscriptionRequestType]
  cases value.isValid with
  | false =>
    refine ⟨_, rfl, fun id => ?_⟩
    rw [if_neg (by simp), findReqId_eq []]
    exact congrArg (fun router => (router.index .tradeRequestId).entry id) (view_dispatchToClient ..)
  | true =>
    have found :
        ((controller.touch .tradeRequestId session).findClient .tradeRequestId session value.tradeRequestId).isSome := by
      rw [findClient_touch, outstanding]
      rfl
    have accepts : (controller.touch .tradeRequestId session).serverSession.state = .ready := upstream
    simp only [Bool.not_true, Bool.false_eq_true, if_false, found, if_true, dispatchTrades, dispatchToServer, if_pos accepts,
      Outcome.andThen_done]
    refine ⟨_, rfl, fun id => ?_⟩
    rw [findReqId_eq [], view_removeReqId _ _ _ _ (createRequestId_ne_empty _ _)]
    simp only [Function.update_self, Index.release_entry, true_and]
    congr 1

end Controller

namespace World
variable {env : Env} {before first last : World} {session : Nat} {name : MappingName} {clientId serverId : String}
  {request : Request} {inputs : List Input}

/-- Nothing ends a subscription: no message reports its failure, its session does not
unsubscribe, and does not end. -/
structure Ongoing (name : MappingName) (session : Nat) (serverId : String) (before : World) (input : Input)
    (after : World) : Prop where
  succeeds : ∀ msgSeqNum value, input = .serverRead msgSeqNum (.response value) → ¬ value.Fails name serverId
  wanted : ∀ clock header request, input = .read session clock header (.request request) →
    ¬ before.view.Unsubscribes name serverId session request
  alive : after.Alive session

/-- A ready session unsubscribes from its trades, and nothing in its request is refused. -/
def Withdraws (env : Env) (before : World) (session : Nat) (serverId : String) : Input → Prop
  | .read reader _ _ (.request (.tradeCaptureReportRequest value)) =>
    reader = session ∧ before.Ready session ∧ value.subscriptionRequestType = .unsubscribe ∧
      env.library.isValidBase64 value.tradeRequestId = true ∧ value.noPartyIds = [] ∧ value.isValid = true ∧
      before.controller.findClient .tradeRequestId session value.tradeRequestId = some serverId
  | _ => False

/-- No ack announces that there is no position, and no other session that has the server id of
a trade subscription ends or unsubscribes. -/
structure Spared (env : Env) (name : MappingName) (session : Nat) (serverId : String) (before : World) (input : Input) :
    Prop where
  counted : name = .posReqId → ∀ msgSeqNum value, input = .serverRead msgSeqNum (.response value) →
    ¬ value.AnnouncesNothing serverId
  shared : name = .tradeRequestId → ∀ other own, other ≠ session →
    before.controller.findClient name other own = some serverId →
    ¬ before.Loses other input ∧ ¬ before.Withdraws env other serverId input

/-- A subscription has its entry after an event, and what came under its server id was passed
to its session, if that was ready, under its own id. -/
structure Carries (name : MappingName) (session : Nat) (clientId serverId : String) (before : World) (input : Input)
    (after : World) : Prop where
  stays : after.controller.findReqId name serverId = some (session, clientId, true)
  passes : ∀ msgSeqNum value client, input = .serverRead msgSeqNum (.response value) → value.mapping = some name →
    value.id name = serverId → before.session session = some client → client.state = .ready →
    after.controller.log = before.controller.log ++
      [.toClient session (client.outboundMsgSeqNum + 1) (.response (value.addressed name clientId))]

private theorem trades_unsubscribed {after : World} {value : TradeCaptureReportRequest} {clock : Clock} {header : Header}
    (step : Step env before (.read session clock header (.request (.tradeCaptureReportRequest value))) after)
    (consistent : before.view.Consistent) (ready : before.Ready session)
    (type : value.subscriptionRequestType = .unsubscribe)
    (outstanding : before.controller.findClient .tradeRequestId session value.tradeRequestId = some serverId)
    {entry : Nat × String × Bool} (held : before.controller.findReqId .tradeRequestId serverId = some entry) :
    (before.Withdraws env session serverId (.read session clock header (.request (.tradeCaptureReportRequest value))) ∧
        after.controller.findReqId .tradeRequestId serverId = none) ∨
      (¬ before.Withdraws env session serverId (.read session clock header (.request (.tradeCaptureReportRequest value))) ∧
        after.controller.findReqId .tradeRequestId serverId = some entry) := by
  obtain ⟨client, heldClient, state⟩ := ready
  obtain ⟨seen, found, stateSeen, party⟩ : ∃ seen,
      (Client.received header session before.controller).sessions.find session = some seen ∧ seen.state = client.state ∧
        seen.partyId = client.partyId := Client.received_find heldClient
  have upstream : before.controller.serverSession.state = .ready :=
    consistent.sound.connected session .ready client.partyId (state ▸ view_session heldClient) trivial
  have own : serverId = createRequestId client.partyId value.tradeRequestId :=
    consistent.indexed.stampedKey .tradeRequestId (fun fresh => fresh) session _ serverId outstanding _ _
      (view_session heldClient)
  have ready : seen.state = .ready := stateSeen.trans state
  have stamp : getClientFromParties (Client.ownParties seen) = client.partyId :=
    party ▸ Client.getClientFromParties_own seen.partyId
  -- what the session itself refuses leaves the entry where it was
  have refused {refId : String} {reason : BusinessRejectReason} {text : String}
      (performed : Client.sendBusinessMessageReject session header .tradeCaptureReportRequest refId reason text
        (Client.received header session before.controller) = after.controller) :
      after.controller.findReqId .tradeRequestId serverId = some entry := by
    rw [← performed, Controller.findReqId_eq [], Client.sendBusinessMessageReject, Controller.view_sendToClient,
      Client.view_received]
    exact held
  have performed := step.performed
  rw [FixProxy.step, Client.read_ready _ heldClient state] at performed
  simp only [Client.request, Client.tradeCaptureReportRequest, Client.business, Client.withSession, found, ready,
    Client.validated, List.find?_cons, List.find?_nil] at performed
  cases valid : env.library.isValidBase64 value.tradeRequestId with
  | false =>
    simp only [valid, Bool.not_false, Outcome.recover_done, Outcome.done.injEq] at performed
    refine Or.inr ⟨?_, refused performed⟩
    rintro ⟨-, -, -, accepted, -⟩
    simp [valid] at accepted
  | true =>
    simp only [valid, Bool.not_true, Client.addPartyIds] at performed
    split at performed
    · next unparted =>
      obtain ⟨last, handled, entries⟩ := @Controller.tradeCaptureReportRequest_unsubscribe
        (Client.received header session before.controller) session serverId
        { value with noPartyIds := Client.ownParties seen } type outstanding upstream
      have entry : last.findReqId .tradeRequestId serverId = if value.isValid = true then none else some entry := by
        rw [entries, stamp, ← own, ← held]
        simp only [and_true]
        rfl
      unfold Client.ownParties at handled
      rw [handled, Outcome.recover_done, Outcome.done.injEq] at performed
      rw [← performed, entry]
      cases accepted : value.isValid with
      | true => exact Or.inl ⟨⟨rfl, ⟨client, heldClient, state⟩, type, valid, unparted, accepted, outstanding⟩, rfl⟩
      | false =>
        refine Or.inr ⟨?_, rfl⟩
        rintro ⟨-, -, -, -, -, passed, -⟩
        simp [accepted] at passed
    · next parted =>
      simp only [Outcome.recover_done, Outcome.done.injEq] at performed
      refine Or.inr ⟨?_, refused performed⟩
      rintro ⟨-, -, -, -, unparted, -⟩
      exact parted unparted

/-- Only in the mapping of the trades can another session have the server id of a subscription. -/
private theorem trades_of_shared (typed : request.subscriptionType = some .snapshotUpdates)
    (consistent : before.view.Consistent)
    (held : before.controller.findReqId request.key.1 serverId = some (session, clientId, true)) {other : Nat} {own : String}
    (key : before.controller.findClient request.key.1 other own = some serverId) (different : other ≠ session) :
    request.key.1 = .tradeRequestId := by
  refine (fresh_of_typed typed).resolve_left fun fresh => different ?_
  obtain ⟨keepAlive, entry⟩ := consistent.indexed.backed _ fresh other own serverId key
  have same := held.symm.trans entry
  simp only [Option.some.injEq, Prod.mk.injEq] at same
  exact same.1.symm

private theorem spared_of_stays {input : Input} {after : World} (step : Step env before input after)
    (reachable : Reachable env before) (held : before.controller.findReqId name serverId = some (session, clientId, true))
    (still : after.controller.findReqId name serverId = some (session, clientId, true)) :
    Spared env name session serverId before input := by
  have consistent := consistent_of_reachable reachable
  refine ⟨?_, fun trades other own different key => ⟨fun loses => ?_, fun withdraws => ?_⟩⟩
  · rintro positions msgSeqNum value rfl announces
    cases value with
    | requestForPositionsAck value =>
      obtain ⟨named, nothing⟩ := announces
      have found : Controller.findReqId name serverId { before.controller with
          serverSession := { before.controller.serverSession with inboundMsgSeqNum := msgSeqNum } } =
            some (session, clientId, true) := held
      rw [step.response, Controller.findReqId_response env _ _ (entry_nonempty consistent held), found,
        if_pos ⟨named.symm, by simp [Response.drops, positions, nothing]⟩] at still
      cases still
    | _ => exact announces
  · cases (entry_gone step reachable key loses).symm.trans still
  · have entry := trades ▸ held
    cases input with
    | read reader clock header message =>
      cases message with
      | request asked =>
        cases asked with
        | tradeCaptureReportRequest value =>
          obtain ⟨rfl, ready, type, -, -, -, outstanding⟩ := id withdraws
          obtain ⟨-, gone⟩ | ⟨keeps, -⟩ := trades_unsubscribed step consistent ready type outstanding entry
          · rw [trades, gone] at still
            cases still
          · exact keeps withdraws
        | _ => exact withdraws
      | _ => exact withdraws
    | _ => exact withdraws

/-- The entry of a subscription stays through an event that spares it. -/
theorem stays_of_spared {input : Input} {after : World} (typed : request.subscriptionType = some .snapshotUpdates)
    (step : Step env before input after) (reachable : Reachable env before)
    (held : before.controller.findReqId request.key.1 serverId = some (session, clientId, true))
    (ongoing : Ongoing request.key.1 session serverId before input after)
    (spared : Spared env request.key.1 session serverId before input) :
    after.controller.findReqId request.key.1 serverId = some (session, clientId, true) := by
  have consistent := consistent_of_reachable reachable
  by_cases ends : before.Unsubscribes request.key.1 serverId input
  · cases input with
    | read reader clock header message =>
      cases message with
      | request asked =>
        have different : reader ≠ session := by
          rintro rfl
          exact ongoing.wanted clock header asked rfl ends
        have trades := trades_of_shared typed consistent held ends.key different
        have named : asked.key.1 = .tradeRequestId := ends.named.trans trades
        cases asked with
        | tradeCaptureReportRequest value =>
          have ready : before.Ready reader := ready_iff.mpr ends.ready
          have outstanding := trades ▸ ends.key
          have entry := trades ▸ held
          obtain ⟨withdraws, -⟩ | ⟨-, kept⟩ := trades_unsubscribed step consistent ready (Option.some.inj ends.type)
            outstanding entry
          · exact absurd withdraws (spared.shared trades reader _ different ends.key).2
          · rw [trades]
            exact kept
        | _ => cases named
      | _ => exact ends.elim
    | _ => exact ends.elim
  · refine entry_survives step consistent held ?_ ends fun other own key => ?_
    · intro drops
      cases input with
      | serverRead msgSeqNum message =>
        cases message with
        | response value =>
          obtain ⟨rfl, entry, found, dropped⟩ := drops
          obtain rfl : entry = (session, clientId, true) := Option.some.inj (found.symm.trans held)
          obtain fails | ⟨positions, nothing⟩ := Controller.fails_of_drops typed dropped
          · exact ongoing.succeeds msgSeqNum value rfl fails
          · exact spared.counted positions msgSeqNum value rfl nothing
        | _ => exact drops
      | _ => exact drops
    · by_cases same : other = session
      · exact same ▸ ongoing.alive
      · have trades := trades_of_shared typed consistent held key same
        exact alive_of_key step reachable key (spared.shared trades other own same key).1

/-- A subscription with updates that was forwarded has its entry until its session ends it, and
every message under its server id reaches that session under its own id, exactly if no other
session had the server id of a trade subscription and every event spares it. -/
theorem subscription_survives_iff {client : Client.Session} {clock : Clock} {header : Header}
    (reachable : Reachable env before) (held : before.session session = some client) (ready : client.state = .ready)
    (typed : request.subscriptionType = some .snapshotUpdates)
    (asked : Step env before (.read session clock header (.request request)) first)
    (forwarded : Forwarded request name clientId serverId before.controller.log first.controller.log)
    (run : Run (fun before input after => Step env before input after ∧ Ongoing name session serverId before input after)
      first inputs last) :
    (first.controller.findReqId name serverId = some (session, clientId, true) ∧
        Run (fun before input after => Step env before input after ∧
          Carries name session clientId serverId before input after) first inputs last) ↔
      (name = .tradeRequestId → before.controller.findReqId name serverId = none) ∧
        Run (fun before input after => Step env before input after ∧ Spared env name session serverId before input)
          first inputs last := by
  have consistent := consistent_of_reachable reachable
  have opens := asked.opens consistent held ready forwarded (by rw [typed]; decide)
  obtain rfl : request.key.1 = name := congrArg Prod.fst forwarded.1
  have entry : first.controller.findReqId request.key.1 serverId =
      some ((before.controller.findReqId request.key.1 serverId).getD (session, clientId, true)) := by
    have flag : request.keepAlive = true := by simp [Request.keepAlive, typed]
    rw [← flag]
    exact opens.entry
  constructor
  · rintro ⟨own, carried⟩
    refine ⟨fun trades => Option.eq_none_iff_forall_not_mem.mpr fun older found => ?_, ?_⟩
    · rw [found, own] at entry
      refine opens.foreign consistent (by rw [trades]; decide) found ?_
      exact congrArg Prod.fst (Option.some.inj entry).symm
    · refine carried.mono_of (fun world => Reachable env world ∧
        world.controller.findReqId request.key.1 serverId = some (session, clientId, true)) ?_ ?_
        ⟨reachable.step asked, own⟩
      · rintro world input after ⟨step, carries⟩ ⟨reachable, -⟩
        exact ⟨reachable.step step, carries.stays⟩
      · rintro world input after ⟨step, carries⟩ ⟨reachable, entry⟩
        exact ⟨step, spared_of_stays step reachable entry carries.stays⟩
  · rintro ⟨unused, spared⟩
    have free : before.controller.findReqId request.key.1 serverId = none := by
      obtain fresh | trades := fresh_of_typed typed
      · exact opens.fresh fresh
      · exact unused trades
    rw [free] at entry
    refine ⟨entry, ?_⟩
    have both := run.inter (fun step step' => step.1.unique step'.1) spared
    refine both.mono_of (fun world => Reachable env world ∧
      world.controller.findReqId request.key.1 serverId = some (session, clientId, true)) ?_ ?_
      ⟨reachable.step asked, entry⟩
    · rintro before input after ⟨⟨step, ongoing⟩, -, spared⟩ ⟨reachable, entry⟩
      exact ⟨reachable.step step, stays_of_spared typed step reachable entry ongoing spared⟩
    · rintro before input after ⟨⟨step, ongoing⟩, -, spared⟩ ⟨reachable, entry⟩
      refine ⟨step, stays_of_spared typed step reachable entry ongoing spared, ?_⟩
      rintro msgSeqNum value client rfl mapped rfl held ready
      exact step.delivers mapped entry held ready

def subscribes : Input := Deployment.asks 1 (Deployment.positions "AAAA" .snapshotUpdates)

theorem subscription_survives_iff_loggedOn : ∃ world first last,
    RunsUnder Regular Deployment.env Deployment.users 0 Deployment.loggedOn world ∧
      Step Deployment.env world subscribes first ∧
      Step Deployment.env first (Deployment.replies (.requestForPositionsAck (Deployment.positionsAck "proxy-2" 1))) last ∧
      last.controller.findReqId .posReqId "proxy-2" = some (1, "AAAA", true) := by
  obtain ⟨world, first, last, runs, asked, run, checked⟩ := exists_runs_of_replay Regular Deployment.env Deployment.users
    0 Deployment.loggedOn subscribes
    [Deployment.replies (.requestForPositionsAck (Deployment.positionsAck "proxy-2" 1))]
    (fun world first last => ((world.session 1).any fun client => client.state == .ready) &&
      first.controller.log == world.controller.log ++
        [.toServer 3 (.request (.requestForPositions
          { posReqId := "proxy-2", subscriptionRequestType := .snapshotUpdates, noPartyIds := Client.ownParties
              { logonTimeout := 0, partyId := "1" }, account := "A1", accountType := 0, isValid := true }))] &&
      (last.session 1).any fun client => client.state == .ready) (by decide +kernel)
  simp only [Bool.and_eq_true, beq_iff_eq, Option.any_eq_true] at checked
  obtain ⟨⟨⟨client, held, ready⟩, log⟩, still, heldStill, readyStill⟩ := checked
  cases run with
  | cons head rest =>
    cases rest
    have ongoing : Ongoing .posReqId 1 "proxy-2" first
        (Deployment.replies (.requestForPositionsAck (Deployment.positionsAck "proxy-2" 1))) last := by
      refine ⟨?_, ?_, still, heldStill, by rw [readyStill]; decide⟩
      · intro msgSeqNum value same
        cases same
        rintro ⟨-, -, refused | rejected⟩
        · exact refused rfl
        · cases rejected
      · intro clock header request same
        cases same
    have spared : Spared Deployment.env .posReqId 1 "proxy-2" first
        (Deployment.replies (.requestForPositionsAck (Deployment.positionsAck "proxy-2" 1))) := by
      refine ⟨?_, fun trades => nomatch trades⟩
      rintro - msgSeqNum value same
      cases same
      rintro ⟨-, nothing⟩
      cases nothing
    have survives := (subscription_survives_iff (reachable_of_runsUnder runs) held ready rfl asked ⟨rfl, 3, _, rfl, log⟩
      (.single ⟨head.2, ongoing⟩)).mpr ⟨by simp, .single ⟨head.2, spared⟩⟩
    cases survives.2 with
    | cons carries rest =>
      cases rest
      exact ⟨world, first, last, runs, asked, head.2, carries.2.stays⟩

/-- An ack that succeeds and announces no position ends a subscription to positions: an
update that upstream sends afterwards is dropped, although the client is ready. -/
theorem subscription_ended : ∃ world acked last,
    RunsUnder Regular Deployment.env Deployment.users 0 (Deployment.loggedOn ++ [subscribes]) world ∧
      world.controller.findReqId .posReqId "proxy-2" = some (1, "AAAA", true) ∧
      Step Deployment.env world (Deployment.replies (.requestForPositionsAck (Deployment.positionsAck "proxy-2" 0))) acked ∧
      ¬ (Response.requestForPositionsAck (Deployment.positionsAck "proxy-2" 0)).Fails .posReqId "proxy-2" ∧
      acked.controller.findReqId .posReqId "proxy-2" = none ∧
      Step Deployment.env acked (Deployment.replies (.positionReport (Deployment.positionReport "proxy-2"))) last ∧
      last.controller.log = acked.controller.log ∧
      ∃ client, last.session 1 = some client ∧ client.state = .ready := by
  obtain ⟨world, acked, last, runs, ack, run, checked⟩ := exists_runs_of_replay Regular Deployment.env Deployment.users
    0 (Deployment.loggedOn ++ [subscribes])
    (Deployment.replies (.requestForPositionsAck (Deployment.positionsAck "proxy-2" 0)))
    [Deployment.replies (.positionReport (Deployment.positionReport "proxy-2"))]
    (fun world acked last => world.controller.findReqId .posReqId "proxy-2" == some (1, "AAAA", true) &&
      acked.controller.findReqId .posReqId "proxy-2" == none && last.controller.log == acked.controller.log &&
      (last.session 1).any fun client => client.state == .ready) (by decide +kernel)
  simp only [Bool.and_eq_true, beq_iff_eq, Option.any_eq_true] at checked
  obtain ⟨⟨⟨entry, gone⟩, silent⟩, client, held, ready⟩ := checked
  cases run with
  | cons head rest =>
    cases rest
    refine ⟨world, acked, last, runs, entry, ack, ?_, gone, head.2, silent, client, held, ready⟩
    rintro ⟨-, -, refused | rejected⟩
    · exact refused rfl
    · cases rejected

end World
end FixProxy
