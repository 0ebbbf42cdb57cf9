import FixProxy.Deployment
import FixProxy.Proofs.Delivery

/-! Orders: the ids under which their reports reach a client, and the table of those
that are not finished. -/

namespace FixProxy
open Codec

def Codec.Response.order : Response → Option String
  | .executionReport value => some value.clOrdId
  | .orderCancelReject value => some value.clOrdId
  | .orderMassCancelReport value => some value.clOrdId
  | _ => none

def Input.response : Input → Option Response
  | .serverRead _ (.response value) => some value
  | _ => none

namespace Controller
variable {env : Env} {controller before after : Controller} {name : MappingName} {clOrdId : String}

/-- What is sent, if anything, is responses of some kind. -/
def Replies (kind : Response → Prop) (before after : Controller) : Prop :=
  ∃ outputs, after.log = before.log ++ outputs ∧ ∀ output ∈ outputs, ∃ session msgSeqNum response,
    output = .toClient session msgSeqNum (.response response) ∧ kind response

theorem Replies.of_eq {kind : Response → Prop} (same : after.log = before.log) : Replies kind before after :=
  ⟨[], by simp [same], fun _ member => nomatch member⟩

private theorem replies_one {kind : Response → Prop} {session msgSeqNum : Nat} {response : Response}
    (log : after.log = before.log ++ [.toClient session msgSeqNum (.response response)]) (kindred : kind response) :
    Replies kind before after := by
  refine ⟨_, log, fun output member => ?_⟩
  obtain rfl := List.mem_singleton.mp member
  exact ⟨session, msgSeqNum, response, rfl, kindred⟩

private theorem dispatchToClient_replies {kind : Response → Prop} {response : Response} (kindred : kind response)
    (session : Nat)
    (controller : Controller) : Replies kind controller (controller.dispatchToClient response session) := by
  cases held : controller.sessions.find session with
  | none => exact .of_eq (by simp [dispatchToClient, held])
  | some client =>
    by_cases ready : client.state = .ready
    · exact replies_one (log_dispatchToClient held ready response) kindred
    · exact .of_eq (by simp [dispatchToClient, held, ready])

private theorem broadcast_replies {kind : Response → Prop} {response : Response} (kindred : kind response) (clientId : String)
    (controller : Controller) : Replies kind controller (controller.broadcast response clientId) := by
  unfold broadcast
  split
  · exact .of_eq rfl
  · exact dispatchToClient_replies kindred ..

private theorem delivered_replies {kind : Response → Prop} {serverId : String} {response : String → Response}
    (delivered : Delivered name serverId response before after)
    (kindred : ∀ session clientId keepAlive, before.findReqId name serverId = some (session, clientId, keepAlive) →
      kind (response clientId)) : Replies kind before after := by
  rcases delivered with silent | ⟨session, clientId, keepAlive, client, msgSeqNum, found, -, -, log⟩
  · exact .of_eq silent
  · exact replies_one log (kindred session clientId keepAlive found)

private theorem log_ensureClOrdId (clOrdId : String) (ordStatus : OrdStatus) (controller : Controller) :
    (controller.ensureClOrdId clOrdId ordStatus).log = controller.log := by
  unfold ensureClOrdId
  split <;> rfl

private theorem log_removeClOrdId (env : Env) (clOrdId : String) (controller : Controller) :
    (controller.removeClOrdId env clOrdId).log = controller.log := by
  unfold removeClOrdId
  split
  · rfl
  · split <;> rfl

theorem Replies.beside {kind : Response → Prop} {first last : Controller} (replies : Replies kind before after)
    (head : before.log = first.log) (rest : last.log = after.log) : Replies kind first last := by
  unfold Replies
  rw [rest, ← head]
  exact replies

private theorem replies_ite {kind : Response → Prop} {condition : Prop} [Decidable condition] {taken other : Controller}
    (ifTaken : Replies kind before taken) (ifOther : Replies kind before other) :
    Replies kind before (if condition then taken else other) := by
  split
  · exact ifTaken
  · exact ifOther

private theorem executionReport_replies (env : Env) (value : ExecutionReport) (controller : Controller) :
    Replies (fun response => response.order = some (getClientClOrdId value.clOrdId)) controller
      (controller.executionReport env value) := by
  unfold executionReport
  simp only
  have routed (name : MappingName) (reqId : String) (response : String → Response) (remove : Bool → Bool)
      (controller : Controller) (named : ∀ clientId, (response clientId).order = some (getClientClOrdId value.clOrdId)) :
      Replies (fun response => response.order = some (getClientClOrdId value.clOrdId)) controller
        (controller.route name reqId response remove) :=
    delivered_replies (route_delivered ..) fun _ clientId _ _ => named clientId
  split
  · exact (routed _ _ _ _ _ fun _ => rfl).beside (log_ensureClOrdId ..) rfl
  · split
    · exact (routed _ _ _ _ _ fun _ => rfl).beside (log_ensureClOrdId ..) rfl
    · refine (fun acted => replies_ite acted (acted.beside rfl (log_removeReqId ..))) ?_
      refine replies_ite (routed _ _ _ _ _ fun _ => rfl) ?_
      refine Replies.beside (@broadcast_replies (fun response => response.order = some (getClientClOrdId value.clOrdId))
        _ rfl _ _) ?_ rfl
      have recorded : (if env.library.isOrderComplete value.ordStatus then controller.removeClOrdId env value.clOrdId
          else if isPending value.execType then controller.ensureClOrdId value.clOrdId value.ordStatus
          else controller).log = controller.log := by
        split
        · exact log_removeClOrdId ..
        · split
          · exact log_ensureClOrdId ..
          · rfl
      split
      · exact (log_removeClOrdId ..).trans recorded
      · exact recorded

private theorem response_replies (env : Env) {value : Response} (about : value.order = some clOrdId)
    (stripped : ∀ name ∈ [MappingName.clOrdId, MappingName.massCancelClOrdId], ∀ id session clientId keepAlive,
      controller.findReqId name id = some (session, clientId, keepAlive) → getClientClOrdId id = clientId) :
    Replies (fun response => response.order = some (getClientClOrdId clOrdId)) controller (controller.response env value) := by
  cases value with
  | executionReport value =>
    cases about
    exact executionReport_replies env value controller
  | orderCancelReject value =>
    cases about
    exact delivered_replies (route_delivered ..) fun session clientId keepAlive found =>
      congrArg some (stripped .clOrdId (by simp) _ _ _ _ found).symm
  | orderMassCancelReport value =>
    cases about
    exact delivered_replies (route_delivered ..) fun session clientId keepAlive found =>
      congrArg some (stripped .massCancelClOrdId (by simp) _ _ _ _ found).symm
  | _ => cases about

end Controller

namespace World
variable {env : Env} {before after world : World} {input : Input} {users : Map String (String × Nat)} {realtime : Nat}
  {inputs : List Input}

private theorem stripped_of_entry (reachable : Reachable env world) {name : MappingName} (stamped : ¬ name.Fresh)
    {id clientId : String} {session : Nat} {keepAlive : Bool}
    (entry : world.controller.findReqId name id = some (session, clientId, keepAlive)) : getClientClOrdId id = clientId := by
  have viewed : (world.view.index name).entry id = some (session, clientId, keepAlive) := entry
  obtain ⟨party, plain, rfl⟩ :=
    (consistent_of_reachable reachable).indexed.stampedEntry name stamped id session clientId keepAlive viewed
  exact getClientClOrdId_createRequestId plain clientId

/-- The client's part can be read back from a server id, each entry agrees with it, and so
does everything that a client is told about an order, whichever way it goes. -/
theorem order_ids_agree (reachable : Reachable env world) :
    (∀ party party' clientId clientId', Plain party → Plain party' →
      createRequestId party clientId = createRequestId party' clientId' → party = party' ∧ clientId = clientId') ∧
    (∀ party clientId, Plain party → getClientClOrdId (createRequestId party clientId) = clientId) ∧
    (∀ name : MappingName, ¬ name.Fresh → ∀ id session clientId keepAlive,
      world.controller.findReqId name id = some (session, clientId, keepAlive) → getClientClOrdId id = clientId) ∧
    ∀ value clOrdId, value.order = some clOrdId →
      Controller.Replies (fun response => response.order = some (getClientClOrdId clOrdId)) world.controller
        (world.controller.response env value) := by
  refine ⟨fun _ _ _ _ plain plain' same => createRequestId_inj plain plain' same,
    fun _ clientId plain => getClientClOrdId_createRequestId plain clientId,
    fun _ stamped _ _ _ _ entry => stripped_of_entry reachable stamped entry, fun value clOrdId about => ?_⟩
  refine Controller.response_replies env about fun name member _ session clientId keepAlive entry => ?_
  refine stripped_of_entry reachable ?_ entry
  rcases List.mem_cons.mp member with rfl | member
  · exact fun fresh => fresh
  · obtain rfl := List.mem_singleton.mp member
    exact fun fresh => fresh

theorem order_ids_agree_ordered : ∃ world, Reachable Deployment.env world ∧
    world.controller.findReqId .clOrdId "proxy-1:AAAA" = some (1, "AAAA", true) ∧
    getClientClOrdId "proxy-1:AAAA" = "AAAA" := by
  obtain ⟨world, runs, checked⟩ := exists_run_of_replay Regular Deployment.env Deployment.users 0 Deployment.ordered
    (fun world => world.controller.findReqId .clOrdId "proxy-1:AAAA" == some (1, "AAAA", true)) (by decide +kernel)
  have reachable := reachable_of_runsUnder runs
  have entry : world.controller.findReqId .clOrdId "proxy-1:AAAA" = some (1, "AAAA", true) := by simpa using checked
  exact ⟨world, reachable, entry, (order_ids_agree reachable).2.2.1 .clOrdId (fun fresh => fresh) _ _ _ _ entry⟩

/-! The order table. -/

/-- A message after which an order is finished. -/
def Terminal (env : Env) (id : String) : Response → Prop
  | .executionReport value =>
    value.clOrdId = id ∧ (env.library.isOrderComplete value.ordStatus = true ∨ value.execType = .rejected ∨
        value.ordStatusReqId ≠ "" ∧ value.ordStatus = .rejected) ∨
      value.origClOrdId = id ∧ isPending value.execType = false
  | .orderCancelReject value => value.clOrdId = id
  | _ => False

/-- A report of an order action that was not rejected is the one kind of message that takes
finished orders from the table. -/
def Removes : Response → Prop
  | .executionReport value => value.ordStatusReqId = "" ∧ value.massStatusReqId = "" ∧ value.execType ≠ .rejected
  | _ => False

instance : DecidablePred Removes := fun value => by
  unfold Removes
  split <;> infer_instance

/-- The answer to a status request enters its order, finished or not. -/
def Enters (id : String) : Response → Prop
  | .executionReport value => (value.ordStatusReqId ≠ "" ∨ value.massStatusReqId ≠ "") ∧ value.clOrdId = id ∧ id ≠ ""
  | _ => False

def Concerns (id : String) : Response → Prop
  | .executionReport value => value.clOrdId = id
  | _ => False

/-- A message that does not take finished orders from the table finishes no order that is in
the table, and enters none that it finishes. -/
def Tidy (env : Env) (before : World) (input : Input) : Prop :=
  ∀ value, input.response = some value → ¬ Removes value → ∀ id, Terminal env id value →
    before.controller.clOrdId.find id = none ∧ ¬ Enters id value

/-- No report for an order follows the message that finishes it. -/
def Ordered (env : Env) (inputs : List Input) : Prop :=
  inputs.Pairwise fun input later => ∀ value, input.response = some value → ∀ id, Terminal env id value →
    ∀ report, later.response = some report → ¬ Concerns id report

end World

namespace Controller
variable {env : Env} {controller : Controller}

private theorem clOrdId_removeReqId (name : MappingName) (reqId : String) (controller : Controller) :
    (controller.removeReqId name reqId).clOrdId = controller.clOrdId := by
  unfold removeReqId
  split
  · rfl
  · simp only
    split <;> rfl

private theorem clOrdId_dispatchToClient (response : Response) (session : Nat) (controller : Controller) :
    (controller.dispatchToClient response session).clOrdId = controller.clOrdId := by
  unfold dispatchToClient sendToClient
  split
  · rfl
  · split
    · split <;> rfl
    · rfl

private theorem clOrdId_route (name : MappingName) (reqId : String) (response : String → Response) (remove : Bool → Bool)
    (controller : Controller) : (controller.route name reqId response remove).clOrdId = controller.clOrdId := by
  unfold route
  split
  · rfl
  · simp only
    split
    · rw [clOrdId_removeReqId, clOrdId_dispatchToClient]
    · rw [clOrdId_dispatchToClient]

private theorem clOrdId_broadcast (response : Response) (clientId : String) (controller : Controller) :
    (controller.broadcast response clientId).clOrdId = controller.clOrdId := by
  unfold broadcast
  split
  · rfl
  · rw [clOrdId_dispatchToClient]

private theorem clOrdId_executionReport (env : Env) (value : ExecutionReport) (controller : Controller) :
    (controller.executionReport env value).clOrdId =
      if value.ordStatusReqId ≠ "" ∨ value.massStatusReqId ≠ "" then
        (controller.ensureClOrdId value.clOrdId value.ordStatus).clOrdId
      else if value.execType = .rejected then controller.clOrdId
      else
        let controller :=
          if env.library.isOrderComplete value.ordStatus then controller.removeClOrdId env value.clOrdId
          else if isPending value.execType then controller.ensureClOrdId value.clOrdId value.ordStatus
          else controller
        (if !isPending value.execType && value.origClOrdId != "" then controller.removeClOrdId env value.origClOrdId
          else controller).clOrdId := by
  have settled (pending : Bool) (handled : Controller) :
      (if pending then handled else handled.removeReqId .clOrdId value.clOrdId).clOrdId = handled.clOrdId := by
    cases pending with
    | true => rfl
    | false => exact clOrdId_removeReqId ..
  unfold executionReport
  by_cases status : value.ordStatusReqId = ""
  · by_cases massStatus : value.massStatusReqId = ""
    · simp only [status, massStatus, ne_eq, not_true_eq_false, or_self, if_false, settled]
      by_cases rejected : value.execType = .rejected
      · simp only [if_pos rejected]
        exact clOrdId_route ..
      · simp only [if_neg rejected]
        exact clOrdId_broadcast ..
    · simp only [status, massStatus, ne_eq, not_true_eq_false, not_false_eq_true, or_true, if_false, if_true]
      exact clOrdId_route ..
  · simp only [status, ne_eq, not_false_eq_true, true_or, if_true]
    exact clOrdId_route ..

private theorem clOrdId_response (env : Env) {value : Response} (other : ∀ report, value ≠ .executionReport report)
    (controller : Controller) : (controller.response env value).clOrdId = controller.clOrdId := by
  cases value with
  | executionReport report => exact absurd rfl (other report)
  | businessMessageReject value =>
    simp only [response, businessMessageReject]
    split
    · rfl
    · split
      · rfl
      · exact clOrdId_dispatchToClient ..
  | requestForPositionsAck value =>
    simp only [response, requestForPositionsAck]
    split
    · rfl
    · split
      · rw [clOrdId_removeReqId, clOrdId_dispatchToClient]
      · rw [clOrdId_dispatchToClient]
  | _ => exact clOrdId_route ..

private theorem find_ensureClOrdId (clOrdId id : String) (ordStatus : OrdStatus) (controller : Controller) :
    (controller.ensureClOrdId clOrdId ordStatus).clOrdId.find id =
      if clOrdId ≠ "" ∧ id = clOrdId then some ordStatus else controller.clOrdId.find id := by
  unfold ensureClOrdId
  by_cases empty : clOrdId = ""
  · simp [empty]
  · simp [empty, eq_comm]

private theorem find_removeClOrdId (enabled : env.settings.testDisableRemoveClOrdId = false) (clOrdId id : String)
    (controller : Controller) :
    (controller.removeClOrdId env clOrdId).clOrdId.find id =
      if clOrdId ≠ "" ∧ id = clOrdId then none else controller.clOrdId.find id := by
  unfold removeClOrdId
  by_cases empty : clOrdId = ""
  · simp [empty]
  · simp [empty, enabled, eq_comm]

end Controller

namespace World
variable {env : Env} {before after world : World} {input : Input} {users : Map String (String × Nat)} {realtime : Nat}
  {inputs : List Input} {value : Response} {id : String} {controller : Controller}

private theorem absent_response (enabled : env.settings.testDisableRemoveClOrdId = false)
    (absent : controller.clOrdId.find id = none) (unnamed : ¬ Concerns id value ∨ id = "") :
    (controller.response env value).clOrdId.find id = none := by
  cases value with
  | executionReport value =>
    have other : ¬ (value.clOrdId ≠ "" ∧ id = value.clOrdId) := by
      rintro ⟨filled, same⟩
      rcases unnamed with unconcerned | empty
      · exact unconcerned same.symm
      · exact filled (same.symm.trans empty)
    have ensured : (controller.ensureClOrdId value.clOrdId value.ordStatus).clOrdId.find id = none := by
      rw [Controller.find_ensureClOrdId, if_neg other]
      exact absent
    have removed (clOrdId : String) {controller : Controller} (absent : controller.clOrdId.find id = none) :
        (controller.removeClOrdId env clOrdId).clOrdId.find id = none := by
      rw [Controller.find_removeClOrdId enabled]
      split
      · rfl
      · exact absent
    simp only [Controller.response, Controller.clOrdId_executionReport]
    split
    · exact ensured
    · split
      · exact absent
      · have recorded : (if env.library.isOrderComplete value.ordStatus then controller.removeClOrdId env value.clOrdId
            else if isPending value.execType then controller.ensureClOrdId value.clOrdId value.ordStatus
            else controller).clOrdId.find id = none := by
          split
          · exact removed _ absent
          · split
            · exact ensured
            · exact absent
        split
        · exact removed _ recorded
        · exact recorded
  | _ =>
    rw [Controller.clOrdId_response env (by rintro report ⟨⟩)]
    exact absent

private theorem terminal_removed (enabled : env.settings.testDisableRemoveClOrdId = false)
    (unnamed : controller.clOrdId.find "" = none) (terminal : Terminal env id value)
    (tidy : ¬ Removes value → controller.clOrdId.find id = none ∧ ¬ Enters id value) :
    (controller.response env value).clOrdId.find id = none := by
  by_cases empty : id = ""
  · exact absent_response enabled (empty ▸ unnamed) (Or.inr empty)
  cases value with
  | executionReport value =>
    simp only [Controller.response, Controller.clOrdId_executionReport]
    by_cases answers : value.ordStatusReqId ≠ "" ∨ value.massStatusReqId ≠ ""
    · obtain ⟨absent, unentered⟩ := tidy fun removes => answers.elim (fun named => named removes.1) fun named =>
        named removes.2.1
      rw [if_pos answers, Controller.find_ensureClOrdId, if_neg]
      · exact absent
      · exact fun entered => unentered ⟨answers, entered.2.symm, empty⟩
    · rw [if_neg answers]
      simp only [not_or, not_not] at answers
      by_cases rejected : value.execType = .rejected
      · rw [if_pos rejected]
        exact (tidy fun removes => removes.2.2 rejected).1
      · rw [if_neg rejected]
        have finished : (value.clOrdId = id ∧ env.library.isOrderComplete value.ordStatus = true) ∨
            value.origClOrdId = id ∧ isPending value.execType = false := by
          rcases terminal with ⟨own, complete | refused | ⟨asked, -⟩⟩ | replaced
          · exact Or.inl ⟨own, complete⟩
          · exact absurd refused rejected
          · exact absurd answers.1 asked
          · exact Or.inr replaced
        rcases finished with ⟨rfl, complete⟩ | ⟨rfl, settled⟩
        · have removed : (controller.removeClOrdId env value.clOrdId).clOrdId.find value.clOrdId = none := by
            rw [Controller.find_removeClOrdId enabled, if_pos ⟨empty, rfl⟩]
          rw [if_pos complete]
          split
          · rw [Controller.find_removeClOrdId enabled]
            split
            · rfl
            · exact removed
          · exact removed
        · rw [if_pos (by simp [settled, empty]), Controller.find_removeClOrdId enabled, if_pos ⟨empty, rfl⟩]
  | orderCancelReject value =>
    rw [Controller.clOrdId_response env (by rintro report ⟨⟩)]
    exact (tidy fun removes => removes).1
  | _ => exact terminal.elim

private theorem caused_tally {router : Router} {orders : String → Option OrdStatus} {reports : Nat}
    (caused : Caused before input after router (.tally orders reports)) : ∃ value, input.response = some value := by
  have lives session : ¬ Router.Closes session (.tally orders reports) := by
    rintro (closes | ends)
    · cases closes
    · exact ends
  cases input with
  | serverRead msgSeqNum message =>
    cases message with
    | response value => exact ⟨value, rfl⟩
    | userResponse value =>
      obtain ⟨session, -, closes⟩ := caused
      exact absurd closes (lives session)
    | logon => cases caused
    | _ => exact caused.elim
  | read session clock header message =>
    obtain (closes | reads) | preliminary := caused
    · exact absurd closes (lives session)
    · cases message <;> simp [Client.LogsOn, Router.Requests] at reads
    · exact preliminary.elim
  | timer now =>
    obtain sweeps | ⟨session, closes⟩ := caused
    · cases sweeps
    · exact absurd closes (lives session)
  | serverDisconnected =>
    obtain unready | lost | ⟨session, closes⟩ := caused
    · cases unready
    · cases lost
    · exact absurd closes (lives session)
  | readError session => exact absurd caused (lives session)
  | disconnected session => exact absurd caused (lives session)
  | accept => cases caused
  | serverConnected => cases caused
  | _ => exact caused.elim

private theorem orders_step (step : Step env before input after) (consistent : before.view.Consistent)
    (other : input.response = none) (id : String) :
    after.controller.clOrdId.find id = before.controller.clOrdId.find id := by
  have same : after.view.orders = before.view.orders :=
    (step.moves consistent).preserves (fun router => router.orders = before.view.orders)
      (fun router action next caused performed same => by
        cases performed with
        | tally =>
          obtain ⟨value, brings⟩ := caused_tally caused
          rw [brings] at other
          cases other
        | _ => exact same) rfl
  exact congrFun same id

/-- The order table, if finished orders leave it with their last message. -/
theorem finished_orders_absent (runs : RunsUnder (Tidy env) env users realtime inputs world)
    (enabled : env.settings.testDisableRemoveClOrdId = false) (ordered : Ordered env inputs) :
    ∀ input ∈ inputs, ∀ value, input.response = some value → ∀ id, Terminal env id value →
      world.controller.clOrdId.find id = none := by
  have table := runs.history (fun inputs world => Ordered env inputs → world.controller.clOrdId.find "" = none ∧
    ∀ input ∈ inputs, ∀ value, input.response = some value → ∀ id, Terminal env id value →
      world.controller.clOrdId.find id = none) ?_ ?_
  · exact (table ordered).2
  · exact fun _ => ⟨rfl, fun _ member => nomatch member⟩
  · rintro inputs input before after run ⟨tidy, step⟩ ih ordered
    obtain ⟨earlier, -, last⟩ := List.pairwise_append.mp ordered
    obtain ⟨unnamed, finished⟩ := ih earlier
    have consistent := consistent_of_reachable (reachable_of_runsUnder run)
    cases brings : input.response with
    | none =>
      have same := orders_step step consistent brings
      refine ⟨(same "").trans unnamed, fun past member value responds id terminal => (same id).trans ?_⟩
      rcases List.mem_append.mp member with old | new
      · exact finished past old value responds id terminal
      · rw [List.mem_singleton.mp new, brings] at responds
        cases responds
    | some value =>
      have handled : ∃ msgSeqNum, input = .serverRead msgSeqNum (.response value) := by
        unfold Input.response at brings
        split at brings
        · next msgSeqNum response => exact ⟨msgSeqNum, by rw [Option.some.inj brings]⟩
        · cases brings
      obtain ⟨msgSeqNum, rfl⟩ := handled
      rw [step.response]
      refine ⟨absent_response enabled unnamed (Or.inr rfl), fun past member report responds id terminal => ?_⟩
      rcases List.mem_append.mp member with old | new
      · exact absent_response enabled (finished past old report responds id terminal)
          (Or.inl (last past old _ (List.mem_singleton_self _) report responds id terminal value rfl))
      · obtain rfl : value = report := by
          rw [List.mem_singleton.mp new] at responds
          exact Option.some.inj responds
        exact terminal_removed enabled unnamed terminal fun keeps => tidy value rfl keeps id terminal

private theorem ordered_last (env : Env) {inputs : List Input} (last : Input)
    (unfinished : ∀ input ∈ inputs, ∀ value, input.response = some value → ∀ id, ¬ Terminal env id value) :
    Ordered env (inputs ++ [last]) := by
  have earlier : Ordered env inputs := List.pairwise_iff_forall_sublist.mpr fun below value brings id terminal =>
    absurd terminal (unfinished _ (below.subset (by simp)) value brings id)
  exact List.pairwise_append.mpr ⟨earlier, List.pairwise_singleton _ _,
    fun input member _ _ value brings id terminal => absurd terminal (unfinished input member value brings id)⟩

private theorem ordered_unfinished : ∀ input ∈ Deployment.ordered, ∀ value, input.response = some value → ∀ id,
    ¬ Terminal Deployment.env id value := by
  intro input member value brings id terminal
  simp only [Deployment.ordered, Deployment.loggedOn, Deployment.arrived, Deployment.goesUp, Deployment.arrives,
    Deployment.asks, Deployment.sends, Deployment.answer, Deployment.replies, List.cons_append, List.nil_append,
    List.mem_cons, List.not_mem_nil, or_false] at member
  rcases member with rfl | rfl | rfl | rfl | rfl | rfl | rfl | rfl | rfl
  case inr.inr.inr.inr.inr.inr.inl =>
    obtain rfl := Option.some.inj brings
    rcases terminal with ⟨-, complete | rejected | ⟨asked, -⟩⟩ | ⟨-, settled⟩
    · exact absurd complete (by decide)
    · exact absurd rejected (by decide)
    · exact absurd rfl asked
    · exact absurd settled (by decide)
  all_goals cases brings

/-- An order is acknowledged, filled, and gone. -/
theorem finished_orders_absent_filled : ∃ world,
    RunsUnder (Tidy Deployment.env) Deployment.env Deployment.users 0
      (Deployment.ordered ++
        [Deployment.replies (.executionReport (Deployment.executionReport "proxy-1:AAAA" .other .filled))]) world ∧
    world.controller.clOrdId.find "proxy-1:AAAA" = none := by
  obtain ⟨world, runs, -⟩ := exists_run_of_replay (fun _ input => ∀ value ∈ input.response, Removes value)
    Deployment.env Deployment.users 0 (Deployment.ordered ++
      [Deployment.replies (.executionReport (Deployment.executionReport "proxy-1:AAAA" .other .filled))])
    (fun _ => true) (by decide +kernel)
  have tidy : RunsUnder (Tidy Deployment.env) Deployment.env Deployment.users 0 _ world := runs.mono fun performed =>
    ⟨fun value brings keeps => absurd (performed.1 value brings) keeps, performed.2⟩
  exact ⟨world, tidy, finished_orders_absent tidy rfl (ordered_last _ _ ordered_unfinished) _
    (List.mem_append_right _ (List.mem_singleton_self _)) _ rfl _ (Or.inl ⟨rfl, Or.inl (by decide)⟩)⟩

/-- An order that is rejected after its acknowledgement stays in the table. -/
theorem finished_order_stays : ∃ world,
    Runs Deployment.env Deployment.users 0 (Deployment.ordered ++
      [Deployment.replies (.executionReport (Deployment.executionReport "proxy-1:AAAA" .rejected .rejected))]) world ∧
    Deployment.env.settings.testDisableRemoveClOrdId = false ∧
    Ordered Deployment.env (Deployment.ordered ++
      [Deployment.replies (.executionReport (Deployment.executionReport "proxy-1:AAAA" .rejected .rejected))]) ∧
    Terminal Deployment.env "proxy-1:AAAA"
      (.executionReport (Deployment.executionReport "proxy-1:AAAA" .rejected .rejected)) ∧
    world.controller.clOrdId.find "proxy-1:AAAA" = some .pendingNew := by
  obtain ⟨world, runs, checked⟩ := exists_run_of_replay Regular Deployment.env Deployment.users 0 (Deployment.ordered ++
      [Deployment.replies (.executionReport (Deployment.executionReport "proxy-1:AAAA" .rejected .rejected))])
    (fun world => world.controller.clOrdId.find "proxy-1:AAAA" == some .pendingNew) (by decide +kernel)
  exact ⟨world, runs_of_runsUnder runs, rfl, ordered_last _ _ ordered_unfinished,
    Or.inl ⟨rfl, Or.inl (by decide)⟩, by simpa using checked⟩

end World
end FixProxy
