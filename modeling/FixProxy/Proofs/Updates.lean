import FixProxy.Proofs.Feeds

/-! Order updates. A report about an order goes to whoever its party names: the session that
has the route is given every one of them once, in the order in which upstream sent them, with
its own order ids, and it is given nobody else's. -/

namespace FixProxy
open Codec

/-- A report of what has happened to an order: not that an action was rejected, and no answer
to a status request. -/
def Codec.ExecutionReport.Updates (value : ExecutionReport) : Prop :=
  value.execType ≠ .rejected ∧ value.execType ≠ .orderStatus

instance : DecidablePred Codec.ExecutionReport.Updates := fun value => by
  unfold Codec.ExecutionReport.Updates
  infer_instance

def Codec.Response.update : Response → Option ExecutionReport
  | .executionReport value => if value.Updates then some value else none
  | _ => none

/-- The order update that an input brings for a client id. -/
def Input.update (clientId : String) : Input → Option ExecutionReport
  | .serverRead _ (.response value) => value.update.filter fun report => getClientFromParties report.noPartyIds = clientId
  | _ => none

/-- Upstream marks the answers to status requests as such. -/
def Input.Marked : Input → Prop
  | .serverRead _ (.response (.executionReport value)) =>
    value.ordStatusReqId ≠ "" ∨ value.massStatusReqId ≠ "" → value.execType = .orderStatus
  | _ => True

/-- The order updates that a session has been given, oldest first. -/
def World.updated (world : World) (session : Nat) : List ExecutionReport := (world.given session).filterMap Response.update

private theorem Codec.Response.update_of_mapped {value : Response} {name : MappingName} (mapped : value.mapping = some name)
    {msgSeqNum : Nat} (marked : (Input.serverRead msgSeqNum (.response value)).Marked) : value.update = none := by
  cases value with
  | executionReport report =>
    refine if_neg ?_
    rintro ⟨accepted, ongoing⟩
    simp only [mapping] at mapped
    split at mapped
    · next status => exact ongoing (marked (Or.inl status))
    · split at mapped
      · next status => exact ongoing (marked (Or.inr status))
      · cases mapped
  | _ => rfl

private theorem Codec.Response.update_addressed {value : Response} (settled : value.update = none) (name : MappingName)
    (clientId : String) : (value.addressed name clientId).update = none := by
  cases value with
  | executionReport report =>
    have ends : ¬ report.Updates := by simpa [update] using settled
    cases name <;> exact if_neg ends
  | _ => rfl

private theorem Codec.Response.update_of_declines {value : Response} {request : Request} (declines : value.Declines request) :
    value.update = none := by
  cases value with
  | executionReport report =>
    refine if_neg ?_
    rintro ⟨-, ongoing⟩
    exact ongoing declines.2.2.1
  | _ => rfl

namespace World
variable {env : Env} {before after first last : World} {session : Nat} {party : String} {input : Input}
  {inputs : List Input}

/-- The session is ready, and has the route of a client id. -/
structure Serves (world : World) (session : Nat) (party : String) : Prop where
  ready : world.Ready session
  route : world.controller.subscriptions.user.clientToSession.find party = some session

private theorem update_shares {msgSeqNum : Nat} {value : Response} (consistent : before.view.Consistent)
    (serves : before.Serves session party) (marked : (Input.serverRead msgSeqNum (.response value)).Marked) :
    (before.shares session value).filterMap Response.update =
      ((Input.serverRead msgSeqNum (.response value)).update party).toList.map ExecutionReport.translated := by
  cases mapped : value.mapping with
  | some name =>
    have settled := Response.update_of_mapped mapped marked
    simp only [Input.update, settled, shares, mapped]
    cases before.controller.findReqId name (value.id name) with
    | none => rfl
    | some entry =>
      simp only
      split
      · simp [Response.update_addressed settled]
      · rfl
  | none =>
    cases value with
    | executionReport report =>
      have own : before.controller.subscriptions.user.clientToSession.find (getClientFromParties report.noPartyIds) =
          some session ↔ getClientFromParties report.noPartyIds = party := by
        constructor
        · intro route
          have owner : before.view.owner session = some (getClientFromParties report.noPartyIds) :=
            (consistent.inverse _ session).mp route
          have owner' : before.view.owner session = some party := (consistent.inverse _ session).mp serves.route
          exact Option.some.inj (owner.symm.trans owner')
        · intro same
          rw [same]
          exact serves.route
      by_cases updates : report.Updates
      · have updates' : report.translated.Updates := updates
        by_cases same : getClientFromParties report.noPartyIds = party
        · have route := serves.route
          simp [shares, mapped, same, route, Response.update, Input.update, updates, updates', Option.filter_some]
        · simp [shares, mapped, own, Response.update, Input.update, updates, same, Option.filter_some]
      · have updates' : ¬ report.translated.Updates := updates
        simp only [shares, mapped, Response.update, Input.update, if_neg updates]
        split
        · simp [Response.update, updates']
        · rfl
    | _ => simp [shares, mapped, Response.update, Input.update]

private theorem updated_step (step : Step env before input after) (reachable : Reachable env before)
    (serves : before.Serves session party) (marked : input.Marked) :
    after.updated session = before.updated session ++ (input.update party).toList.map ExecutionReport.translated := by
  obtain ⟨client, held, ready⟩ := serves.ready
  by_cases answered : ∃ msgSeqNum value, input = .serverRead msgSeqNum (.response value)
  · obtain ⟨msgSeqNum, value, rfl⟩ := answered
    rw [updated, given_response step held ready, List.filterMap_append,
      update_shares (consistent_of_reachable reachable) serves marked, updated]
  · have brings : input.update party = none := by
      unfold Input.update
      split
      · exact absurd ⟨_, _, rfl⟩ answered
      · rfl
    obtain ⟨more, given, plain⟩ := given_quietly step reachable held ready fun msgSeqNum value same =>
      answered ⟨msgSeqNum, value, same⟩
    have none : more.filterMap Response.update = [] := by
      rw [List.filterMap_eq_nil_iff]
      intro value member
      rcases plain value member with ⟨reject, rfl⟩ | ⟨request, declines⟩
      · rfl
      · exact Response.update_of_declines declines
    rw [brings, updated, given, List.filterMap_append, none, updated]
    rfl

/-- As long as a session is ready and has the route of its client id, it is given the order
updates of this client id, each once, in the order of upstream, with its own order ids. -/
theorem updates_delivered (reachable : Reachable env first) (serves : first.Serves session party)
    (run : Run (fun before input after => Step env before input after ∧ input.Marked ∧ after.Serves session party)
      first inputs last) :
    last.updated session =
      first.updated session ++ (inputs.filterMap (Input.update party)).map ExecutionReport.translated := by
  have grows : Run (fun before input after => after.updated session =
      before.updated session ++ (input.update party).toList.map ExecutionReport.translated) first inputs last :=
    run.mono_of (fun world => Reachable env world ∧ world.Serves session party)
      (fun ⟨step, _, serves⟩ ⟨reachable, _⟩ => ⟨reachable.step step, serves⟩)
      (fun ⟨step, marked, _⟩ ⟨reachable, serves⟩ => updated_step step reachable serves marked) ⟨reachable, serves⟩
  have collected := grows.collects (fun world : World => world.updated session)
    (fun input : Input => (input.update party).toList.map ExecutionReport.translated) fun grown => grown
  rw [collected, List.filterMap_eq_flatMap_toList, List.map_flatMap]

def reportsOrder : Input := Deployment.replies (.executionReport (Deployment.executionReport "proxy-1:AAAA" .other .new))

theorem updates_delivered_loggedOn : ∃ first last,
    RunsUnder Regular Deployment.env Deployment.users 0 (Deployment.loggedOn ++ [Deployment.asks 1 (Deployment.order "AAAA")])
      first ∧ Step Deployment.env first reportsOrder last ∧
      last.updated 1 = first.updated 1 ++ [Deployment.executionReport "AAAA" .other .new] := by
  obtain ⟨first, last, runs, -, step, checked⟩ := exists_step_of_replay Regular Deployment.env Deployment.users 0
    (Deployment.loggedOn ++ [Deployment.asks 1 (Deployment.order "AAAA")]) reportsOrder
    (fun first last => ((first.session 1).any fun client => client.state == .ready) &&
      first.controller.subscriptions.user.clientToSession.find "1" == some 1 &&
      ((last.session 1).any fun client => client.state == .ready) &&
      last.controller.subscriptions.user.clientToSession.find "1" == some 1) (by decide +kernel)
  simp only [Bool.and_eq_true, beq_iff_eq, Option.any_eq_true] at checked
  obtain ⟨⟨⟨⟨client, held, ready⟩, route⟩, ⟨still, heldStill, readyStill⟩⟩, routeStill⟩ := checked
  refine ⟨first, last, runs, step, ?_⟩
  have marked : reportsOrder.Marked := by
    rintro (status | massStatus)
    · exact absurd rfl status
    · exact absurd rfl massStatus
  have delivered := updates_delivered (reachable_of_runsUnder runs) ⟨⟨client, held, ready⟩, route⟩
    (.single ⟨step, marked, ⟨still, heldStill, readyStill⟩, routeStill⟩)
  exact delivered

end World
end FixProxy
