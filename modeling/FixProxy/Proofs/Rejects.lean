import FixProxy.Deployment
import FixProxy.Proofs.Releases

/-! What becomes of a request that upstream refuses: the refusal is passed on to the
session that asked, and the ids of the request are released. -/

namespace FixProxy
open Codec

namespace World
variable {env : Env} {world after : World} {request : Request} {name : MappingName} {session : Nat}
  {clientId serverId : String} {msgSeqNum : Nat}

/-- The server id leads back to the session and its own id. -/
def LeadsTo (world : World) (name : MappingName) (serverId : String) (session : Nat) (clientId : String) : Prop :=
  ∃ keepAlive, world.controller.findReqId name serverId = some (session, clientId, keepAlive)

/-- Every kind of request has the mapping of its entries in the table of rejects, but one. -/
private theorem businessMessageRejectMapping_request (request : Request) :
    Controller.businessMessageRejectMapping request.msgType =
      if request.msgType = .orderMassCancelRequest then none else some request.key.1 := by
  cases request <;> rfl

/-- A business reject reaches the session that waits for it, and nobody else, exactly if
the session is ready, the server id leads to it, and the request was not a mass cancel. -/
theorem businessReject_delivered_iff (key : request.key = (name, clientId)) {value : BusinessMessageReject}
    (rejects : value.refMsgType = request.msgType) (named : value.businessRejectRefId = serverId)
    (step : Step env world (.serverRead msgSeqNum (.response (.businessMessageReject value))) after) :
    (∃ number, after.controller.log = world.controller.log ++ [.toClient session number
      (.response (.businessMessageReject { value with businessRejectRefId := clientId }))]) ↔
    request.msgType ≠ .orderMassCancelRequest ∧
      (∃ client, world.session session = some client ∧ client.state = .ready) ∧
      world.LeadsTo name serverId session clientId := by
  let received : Controller := { world.controller with
    serverSession := { world.controller.serverSession with inboundMsgSeqNum := msgSeqNum } }
  have performed : after.controller = received.businessMessageReject value := step.response
  have mapping := businessMessageRejectMapping_request request
  rw [← rejects, key] at mapping
  by_cases unmapped : value.refMsgType = .orderMassCancelRequest
  · -- the type has no row in the table
    rw [if_pos unmapped] at mapping
    simp only [Controller.businessMessageReject, mapping] at performed
    refine iff_of_false ?_ fun delivers => delivers.1 (rejects ▸ unmapped)
    rintro ⟨number, sent⟩
    rw [performed] at sent
    simp [received] at sent
  · rw [if_neg unmapped] at mapping
    simp only [Controller.businessMessageReject, mapping, named] at performed
    cases found : world.controller.findReqId name serverId with
    | none =>
      have missing : received.findReqId name serverId = none := found
      simp only [missing] at performed
      refine iff_of_false ?_ ?_
      · rintro ⟨number, sent⟩
        rw [performed] at sent
        simp [received] at sent
      · rintro ⟨-, -, keepAlive, entry⟩
        cases found.symm.trans entry
    | some entry =>
      obtain ⟨owner, ownId, flag⟩ := entry
      have present : received.findReqId name serverId = some (owner, ownId, flag) := found
      simp only [present] at performed
      constructor
      · rintro ⟨number, sent⟩
        obtain silent | ⟨_, _, _, client, _, same, held, ready, log⟩ :=
          Controller.dispatchToClient_delivered present fun reqId =>
            .businessMessageReject { value with businessRejectRefId := reqId }
        · rw [← performed, sent] at silent
          simp [received] at silent
        · rw [← performed, sent] at log
          rw [present] at same
          cases same
          have message := List.append_cancel_left log
          simp only [List.cons.injEq, Output.toClient.injEq, ToClient.response.injEq,
            Response.businessMessageReject.injEq, BusinessMessageReject.mk.injEq] at message
          obtain ⟨⟨rfl, -, -, -, rfl, -⟩, -⟩ := message
          exact ⟨rejects ▸ unmapped, ⟨client, held, ready⟩, flag, found⟩
      · rintro ⟨-, ⟨client, held, ready⟩, keepAlive, entry⟩
        rw [found] at entry
        cases entry
        exact ⟨_, performed ▸ @Controller.log_dispatchToClient received session client held ready _⟩

def massCancels : Request := .orderMassCancelRequest
  { clOrdId := "AAAA", massCancelRequestType := 7, symbol := "", securityExchange := "", side := 0, noPartyIds := [],
    isValid := true }

def businessReject (refMsgType : MsgType) (businessRejectRefId : String) : BusinessMessageReject :=
  { refSeqNum := 1, refMsgType, businessRejectRefId, businessRejectReason := .other, text := "" }

theorem businessReject_delivered_iff_subscribed : ∃ world after,
    Runs Deployment.env Deployment.users 0 Deployment.subscribed world ∧
      Step Deployment.env world (Deployment.replies (.businessMessageReject (businessReject .marketDataRequest "proxy-2")))
        after ∧
      ∃ number, after.controller.log = world.controller.log ++
        [.toClient 1 number (.response (.businessMessageReject (businessReject .marketDataRequest "AAAA")))] := by
  obtain ⟨world, after, runs, -, step, checked⟩ := exists_step_of_replay Regular Deployment.env Deployment.users 0
    Deployment.subscribed (Deployment.replies (.businessMessageReject (businessReject .marketDataRequest "proxy-2")))
    (fun world _ => ((world.session 1).any fun client => client.state == .ready) &&
      world.controller.findReqId .mdReqId "proxy-2" == some (1, "AAAA", true)) (by decide +kernel)
  simp only [Bool.and_eq_true, beq_iff_eq, Option.any_eq_true] at checked
  obtain ⟨⟨client, held, ready⟩, entry⟩ := checked
  have leads : world.LeadsTo .mdReqId "proxy-2" 1 "AAAA" := ⟨true, entry⟩
  have key : (Deployment.marketData "AAAA" .snapshotUpdates).key = (.mdReqId, "AAAA") := rfl
  exact ⟨world, after, runs_of_runsUnder runs, step, (businessReject_delivered_iff key rfl rfl step).mpr
    ⟨by decide, ⟨client, held, ready⟩, leads⟩⟩

/-- The reject of a mass cancel is dropped. -/
theorem businessReject_dropped : ∃ world after,
    RunsUnder Regular Deployment.env Deployment.users 0 (Deployment.loggedOn ++ [Deployment.asks 1 massCancels]) world ∧
      Step Deployment.env world
        (Deployment.replies (.businessMessageReject (businessReject .orderMassCancelRequest "proxy-1:AAAA"))) after ∧
      world.controller.findClient .massCancelClOrdId 1 "AAAA" = some "proxy-1:AAAA" ∧
      (∃ client, world.session 1 = some client ∧ client.state = .ready) ∧
      after.controller.log = world.controller.log := by
  obtain ⟨world, after, runs, -, step, checked⟩ := exists_step_of_replay Regular Deployment.env Deployment.users 0
    (Deployment.loggedOn ++ [Deployment.asks 1 massCancels])
    (Deployment.replies (.businessMessageReject (businessReject .orderMassCancelRequest "proxy-1:AAAA")))
    (fun world after => world.controller.findClient .massCancelClOrdId 1 "AAAA" == some "proxy-1:AAAA" &&
      ((world.session 1).any fun client => client.state == .ready) &&
      after.controller.log == world.controller.log) (by decide +kernel)
  simp only [Bool.and_eq_true, beq_iff_eq, Option.any_eq_true] at checked
  obtain ⟨⟨outstanding, client, held, ready⟩, silent⟩ := checked
  exact ⟨world, after, runs, step, outstanding, ⟨client, held, ready⟩, silent⟩

end World

/-- The messages by which upstream refuses a request that has the server id. -/
def Codec.Response.Refuses (request : Request) (serverId : String) : Response → Prop
  | .businessMessageReject value =>
    value.refMsgType = request.msgType ∧ value.businessRejectRefId = serverId
  | .marketDataRequestReject value => request.key.1 = .mdReqId ∧ value.mdReqId = serverId
  | .securityList value =>
    request.key.1 = .securityReqId ∧ value.securityReqId = serverId ∧ value.securityRequestResult ≠ .valid
  | .securityDefinition value =>
    request.key.1 = .securityReqId ∧ value.securityReqId = serverId ∧
      value.securityResponseType ≠ .acceptSecurityProposalAsIs
  | .orderCancelReject value => request.key.1 = .clOrdId ∧ value.clOrdId = serverId
  | .executionReport value =>
    (value.execType = .rejected ∨ value.ordStatus = .rejected) ∧
      (request.key.1 = .ordStatusReqId ∧ value.ordStatusReqId = serverId ∨
        request.key.1 = .massStatusReqId ∧ value.ordStatusReqId = "" ∧ value.massStatusReqId = serverId ∧
          value.lastRptRequested = true ∨
        request.key.1 = .clOrdId ∧ value.ordStatusReqId = "" ∧ value.massStatusReqId = "" ∧ value.clOrdId = serverId)
  | .requestForPositionsAck value =>
    request.key.1 = .posReqId ∧ value.posReqId = serverId ∧
      (value.posReqResult ≠ .valid ∨ value.posReqStatus = .rejected)
  | .tradeCaptureReportRequestAck value =>
    request.key.1 = .tradeRequestId ∧ value.tradeRequestId = serverId ∧ value.tradeRequestStatus = .rejected
  | _ => False

/-- The refusals that release the ids of a request with the given flag. -/
def Codec.Response.Frees (name : MappingName) (keepAlive : Bool) : Response → Prop
  | .businessMessageReject _ => False
  | .tradeCaptureReportRequestAck _ => keepAlive = false
  | .executionReport value => name = .clOrdId → isPending value.execType = false
  | _ => True

namespace Controller
variable {controller : Controller} {request : Request} {serverId : String}

private theorem drops_of_refuses {value : Response} (nonempty : serverId ≠ "") (refuses : value.Refuses request serverId)
    (reports : Nat) (keepAlive : Bool) :
    value.id request.key.1 = serverId ∧
      (value.drops request.key.1 reports keepAlive = true ↔ value.Frees request.key.1 keepAlive) := by
  cases value with
  | businessMessageReject value =>
    obtain ⟨-, rfl⟩ := refuses
    exact ⟨rfl, by simp [Response.drops, Response.Frees]⟩
  | marketDataRequestReject value =>
    obtain ⟨name, rfl⟩ := refuses
    rw [name]
    exact ⟨rfl, by simp [Response.drops, Response.Frees]⟩
  | securityList value =>
    obtain ⟨name, rfl, failure⟩ := refuses
    rw [name]
    exact ⟨rfl, by simp [Response.drops, Response.Frees, failure]⟩
  | securityDefinition value =>
    obtain ⟨name, rfl, failure⟩ := refuses
    rw [name]
    exact ⟨rfl, by simp [Response.drops, Response.Frees, failure]⟩
  | orderCancelReject value =>
    obtain ⟨name, rfl⟩ := refuses
    rw [name]
    exact ⟨rfl, by simp [Response.drops, Response.Frees]⟩
  | requestForPositionsAck value =>
    obtain ⟨name, rfl, failure⟩ := refuses
    rw [name]
    have failed : (value.posReqResult != .valid || value.posReqStatus == .rejected) = true := by simpa using failure
    exact ⟨rfl, by simp [Response.drops, Response.Frees, failed]⟩
  | tradeCaptureReportRequestAck value =>
    obtain ⟨name, rfl, rejected⟩ := refuses
    rw [name]
    exact ⟨rfl, by simp [Response.drops, Response.Frees]⟩
  | executionReport value =>
    obtain ⟨-, ⟨name, rfl⟩ | ⟨name, unnamed, rfl, last⟩ | ⟨name, unnamed, single, rfl⟩⟩ := refuses
    · rw [name]
      exact ⟨rfl, by simp [Response.drops, Response.Frees, nonempty]⟩
    · rw [name]
      exact ⟨rfl, by simp [Response.drops, Response.Frees, unnamed, nonempty, last]⟩
    · rw [name]
      exact ⟨rfl, by simp [Response.drops, Response.Frees, unnamed, single]⟩
  | _ => exact refuses.elim

end Controller

namespace World
variable {env : Env} {world after : World} {request : Request} {name : MappingName} {session : Nat}
  {clientId serverId : String} {msgSeqNum : Nat}

/-- A refusal frees the ids of the request exactly if it is of a kind whose handler releases
them, and the server id leads to the session. -/
theorem refusal_frees_iff (reachable : Reachable env world) (key : request.key = (name, clientId))
    (outstanding : world.controller.findClient name session clientId = some serverId) {value : Response}
    (refuses : value.Refuses request serverId)
    (step : Step env world (.serverRead msgSeqNum (.response value)) after) :
    after.Freed name session clientId serverId ↔
      ∃ keepAlive, world.controller.findReqId name serverId = some (session, clientId, keepAlive) ∧
        value.Frees name keepAlive := by
  have consistent := consistent_of_reachable reachable
  have nonempty : serverId ≠ "" := by
    by_cases fresh : name.Fresh
    · obtain ⟨counter, -, rfl⟩ := consistent.indexed.issuedKey name fresh session clientId serverId outstanding
      exact Shared.requestId_ne_empty counter
    · obtain ⟨_, party, -, -, -, rfl⟩ := Router.key_stamped consistent.indexed fresh outstanding
      exact createRequestId_ne_empty party clientId
  let received : Controller := { world.controller with
    serverSession := { world.controller.serverSession with inboundMsgSeqNum := msgSeqNum } }
  have drops := Controller.drops_of_refuses nonempty refuses received.totalNumPosReports
  have released := Controller.response_released env world.answered value name received
  simp only [congrArg Prod.fst key] at drops
  rw [← step.response, (drops false).1] at released
  unfold Controller.Released at released
  have entry : received.findReqId name serverId = world.controller.findReqId name serverId := rfl
  have kept : (received.view world.answered).index name = world.view.index name := rfl
  have client : after.controller.findClient name session clientId =
      ((after.controller.view world.answered).index name).key session clientId := rfl
  have server : after.controller.findReqId name serverId =
      ((after.controller.view world.answered).index name).entry serverId := rfl
  have leads : (world.view.index name).key session clientId = some serverId := outstanding
  rw [entry, kept] at released
  unfold Freed
  rw [client, server, released]
  cases found : world.controller.findReqId name serverId with
  | none => simp [leads]
  | some pair =>
    obtain ⟨owner, ownId, flag⟩ := pair
    have held : (world.view.index name).entry serverId = some (owner, ownId, flag) := found
    simp only [Option.any_some]
    by_cases removed : value.drops name received.totalNumPosReports flag = true
    · rw [if_pos ⟨nonempty, removed⟩, Index.release_entry, if_pos rfl]
      simp only [Index.release, held, and_true]
      constructor
      · intro forgotten
        by_cases own : owner = session ∧ ownId = clientId
        · obtain ⟨rfl, rfl⟩ := own
          exact ⟨flag, rfl, (drops flag).2.mp removed⟩
        · -- the released key is not the one of the session
          have still : Function.update (world.view.index name).key owner
              (Function.update ((world.view.index name).key owner) ownId none) session clientId = some serverId := by
            by_cases sameOwner : session = owner
            · subst owner
              have different : clientId ≠ ownId := fun same => own ⟨rfl, same.symm⟩
              simpa [different] using leads
            · simpa [sameOwner] using leads
          rw [still] at forgotten
          cases forgotten
      · rintro ⟨keepAlive, same, -⟩
        cases same
        simp
    · rw [if_neg fun both => removed both.2]
      refine iff_of_false ?_ ?_
      · rintro ⟨forgotten, -⟩
        rw [leads] at forgotten
        cases forgotten
      · rintro ⟨keepAlive, same, freed⟩
        cases same
        exact removed ((drops flag).2.mpr freed)

theorem refusal_frees_iff_subscribed : ∃ world after,
    Runs Deployment.env Deployment.users 0 Deployment.subscribed world ∧
      Step Deployment.env world (Deployment.replies (.marketDataRequestReject
        { mdReqId := "proxy-2", mdReqRejReason := .other, text := "" })) after ∧
      after.Freed .mdReqId 1 "AAAA" "proxy-2" := by
  obtain ⟨world, after, runs, -, step, checked⟩ := exists_step_of_replay Regular Deployment.env Deployment.users 0
    Deployment.subscribed
    (Deployment.replies (.marketDataRequestReject { mdReqId := "proxy-2", mdReqRejReason := .other, text := "" }))
    (fun world _ => world.controller.findClient .mdReqId 1 "AAAA" == some "proxy-2" &&
      world.controller.findReqId .mdReqId "proxy-2" == some (1, "AAAA", true)) (by decide +kernel)
  simp only [Bool.and_eq_true, beq_iff_eq] at checked
  obtain ⟨outstanding, entry⟩ := checked
  have key : (Deployment.marketData "AAAA" .snapshotUpdates).key = (.mdReqId, "AAAA") := rfl
  have refuses : (Response.marketDataRequestReject { mdReqId := "proxy-2", mdReqRejReason := .other, text := "" }).Refuses
      (Deployment.marketData "AAAA" .snapshotUpdates) "proxy-2" := ⟨rfl, rfl⟩
  exact ⟨world, after, runs_of_runsUnder runs, step,
    (refusal_frees_iff (reachable_of_runsUnder runs) key outstanding refuses step).mpr ⟨true, entry, trivial⟩⟩

/-- A business reject is passed on, and the id of the refused request stays taken. -/
theorem businessReject_keeps : ∃ world after,
    RunsUnder Regular Deployment.env Deployment.users 0 Deployment.subscribed world ∧
      Step Deployment.env world (Deployment.replies (.businessMessageReject (businessReject .marketDataRequest "proxy-2")))
        after ∧
      world.controller.findClient .mdReqId 1 "AAAA" = some "proxy-2" ∧
      after.controller.findClient .mdReqId 1 "AAAA" = some "proxy-2" ∧
      after.controller.findReqId .mdReqId "proxy-2" = some (1, "AAAA", true) := by
  obtain ⟨world, after, runs, -, step, checked⟩ := exists_step_of_replay Regular Deployment.env Deployment.users 0
    Deployment.subscribed (Deployment.replies (.businessMessageReject (businessReject .marketDataRequest "proxy-2")))
    (fun world after => world.controller.findClient .mdReqId 1 "AAAA" == some "proxy-2" &&
      after.controller.findClient .mdReqId 1 "AAAA" == some "proxy-2" &&
      after.controller.findReqId .mdReqId "proxy-2" == some (1, "AAAA", true)) (by decide +kernel)
  simp only [Bool.and_eq_true, beq_iff_eq] at checked
  obtain ⟨⟨outstanding, client⟩, server⟩ := checked
  exact ⟨world, after, runs, step, outstanding, client, server⟩

end World
end FixProxy
