import FixProxy.Proofs.Authenticity
import FixProxy.Proofs.Gate
import FixProxy.Proofs.Isolation
import FixProxy.Proofs.Outcomes
import FixProxy.Proofs.Quits

/-! Order status requests and their answers. Those without an id of their own share a server
id and have no key, so what holds of the others holds of them only while one is unanswered
at a time, and no session ends in between. -/

namespace FixProxy
open Codec

/-- An order status request of a session, and the request that went upstream for it. -/
structure Inquiry where
  session : Nat
  request : OrderStatusRequest
  sent : OrderStatusRequest
  deriving DecidableEq

def Inquiry.Answered (report : ExecutionReport) (inquiry : Inquiry) : Prop :=
  inquiry.sent.ordStatusReqId = report.ordStatusReqId ∧ inquiry.sent.clOrdId = report.clOrdId

instance (report : ExecutionReport) : DecidablePred (Inquiry.Answered report) := fun inquiry => by
  unfold Inquiry.Answered
  infer_instance

def Output.orderStatusRequest? : Output → Option OrderStatusRequest
  | .toServer _ (.request (.orderStatusRequest value)) => some value
  | _ => none

def Input.report : Input → Option ExecutionReport
  | .serverRead _ (.response (.executionReport value)) => some value
  | _ => none

def Input.inquiries (outputs : List Output) : Input → List Inquiry
  | .read session _ _ (.request (.orderStatusRequest request)) =>
    (outputs.filterMap Output.orderStatusRequest?).map fun sent => ⟨session, request, sent⟩
  | _ => []

namespace World
variable {env : Env} {before after : World} {input : Input} {session : Nat} {inquiry : Inquiry}

/-- The order status requests that go upstream in an event. -/
def inquiries (before : World) (input : Input) (after : World) : List Inquiry :=
  input.inquiries (after.controller.log.drop before.controller.log.length)

/-- A session ends that has an entry for an order status request without an id of its own. -/
def Orphans (before : World) (input : Input) : Prop :=
  ∃ entry ∈ (before.controller.mapping .ordStatusReqId).serverToClient.toList,
    entry.2.2.1 = "" ∧ before.Loses entry.2.1 input

instance (before : World) (input : Input) : Decidable (before.Orphans input) := by
  unfold Orphans
  infer_instance

private theorem orphans_iff : before.Orphans input ↔ ∃ id session keepAlive,
    before.controller.findReqId .ordStatusReqId id = some (session, "", keepAlive) ∧ before.Loses session input := by
  constructor
  · rintro ⟨⟨id, session, own, keepAlive⟩, member, rfl, loses⟩
    exact ⟨id, session, keepAlive, Map.mem_toList.mp member, loses⟩
  · rintro ⟨id, session, keepAlive, entry, loses⟩
    exact ⟨(id, session, "", keepAlive), Map.mem_toList.mpr entry, rfl, loses⟩

private theorem Step.inquires (step : Step env before input after) (reachable : Reachable env before)
    (new : inquiry ∈ before.inquiries input after) :
    ∃ client, before.session inquiry.session = some client ∧ client.state = .ready ∧
      inquiry.sent.clOrdId = createRequestId client.partyId inquiry.request.clOrdId ∧
      Router.Opens .ordStatusReqId inquiry.session inquiry.request.ordStatusReqId inquiry.sent.ordStatusReqId false
        before.view after.view := by
  have consistent := consistent_of_reachable reachable
  unfold inquiries Input.inquiries at new
  split at new
  · next session clock header request =>
    obtain ⟨sent, member, rfl⟩ := List.mem_map.mp new
    obtain ⟨output, added, kind⟩ := List.mem_filterMap.mp member
    obtain ⟨msgSeqNum, rfl⟩ : ∃ msgSeqNum, output = .toServer msgSeqNum (.request (.orderStatusRequest sent)) := by
      unfold Output.orderStatusRequest? at kind
      split at kind
      · cases kind
        exact ⟨_, rfl⟩
      · cases kind
    obtain ⟨outputs, log, sends⟩ := step.adds reachable
    have same : after.controller.log = before.controller.log ++ outputs := log
    rw [same, List.drop_left] at added
    obtain own | ⟨other, client, deed, held, scene, sends, -⟩ := sends _ _ added
    · exact own.elim
    cases sends with
    | part ends parting => exact parting.elim
    | pass =>
      cases scene with
      | ends ends => exact ends.elim
      | pass ready read =>
        obtain ⟨rfl, -⟩ : session = other ∧ _ := by simpa using read
        obtain ⟨passed, itself, number, serverId, forwards⟩ | refuses := step.disposes consistent held ready
        · cases itself
          obtain rfl : outputs = [.toServer number (.request
              (((Request.orderStatusRequest request).stamped (Client.ownParties client)).renamed client.partyId serverId))] :=
            List.append_cancel_left (same.symm.trans forwards)
          cases List.mem_singleton.mp added
          refine ⟨client, held, ready, rfl, ?_⟩
          exact step.opens consistent held ready ⟨rfl, msgSeqNum, _, rfl, forwards⟩ (by simp [Request.subscriptionType])
        · obtain ⟨⟨number, reply, -, replied⟩, -⟩ := refuses
          obtain rfl : outputs = [.toClient session number reply] := List.append_cancel_left (same.symm.trans replied)
          cases List.mem_singleton.mp added
  · cases new

private theorem Asks.inquires {own id : String} (asks : Asks before .ordStatusReqId session own id input after) :
    ∃ inquiry ∈ before.inquiries input after, inquiry.session = session ∧ inquiry.request.ordStatusReqId = own ∧
      inquiry.sent.ordStatusReqId = id := by
  obtain ⟨clock, header, request, rfl, key, msgSeqNum, sent, sentKey, log⟩ := asks.forwarded
  cases request with
  | orderStatusRequest request =>
    cases sent with
    | orderStatusRequest sent =>
      refine ⟨⟨session, request, sent⟩, ?_, rfl, congrArg Prod.snd key, congrArg Prod.snd sentKey⟩
      simp [inquiries, Input.inquiries, log, Output.orderStatusRequest?]
    | _ => cases congrArg Prod.fst sentKey
  | _ => cases congrArg Prod.fst key

end World

/-- The process, and the order status requests that upstream has not answered. -/
structure Polling where
  world : World
  unanswered : List Inquiry := []

namespace Polling
variable {env : Env} {before after : Polling} {input : Input}

def create (users : Map String (String × Nat)) (realtime : Nat) : Polling := { world := .create users realtime }

/-- What is left unanswered when an input is read: a report answers one request at most. -/
def remaining (before : Polling) (input : Input) : List Inquiry :=
  match input.report with
  | none => before.unanswered
  | some report => before.unanswered.eraseP fun inquiry => inquiry.Answered report

/-- An event: what upstream answers under an id that was sent also has the order id that was
sent with it. -/
structure Step (env : Env) (before : Polling) (input : Input) (after : Polling) : Prop where
  step : World.Step env before.world input after.world
  echoed : ∀ report ∈ input.report, ∀ inquiry ∈ before.unanswered, inquiry.sent.ordStatusReqId = report.ordStatusReqId →
    ∃ other ∈ before.unanswered, other.Answered report
  recorded : after.unanswered = before.remaining input ++ before.world.inquiries input after.world

/-- The events that an answer can be found after: no report answers one of several requests
that went upstream under one id, while the session of another is ready; and no session ends
that has an entry without an id of its own. -/
def Steady (before : Polling) (input : Input) : Prop :=
  (∀ report ∈ input.report, ∀ inquiry ∈ before.remaining input, inquiry.sent.ordStatusReqId = report.ordStatusReqId →
    ¬ before.world.Ready inquiry.session) ∧
  ¬ before.world.Orphans input

/-- A request that was sent for a session: the ids carry the party that the session has. -/
structure Placed (world : World) (inquiry : Inquiry) : Prop where
  known : inquiry.session ≤ world.roster.lastSession
  sender : ∀ client, world.session inquiry.session = some client → client.state ≠ .zombie → client.state.Serving ∧
    inquiry.sent.ordStatusReqId = createRequestId client.partyId inquiry.request.ordStatusReqId ∧
    inquiry.sent.clOrdId = createRequestId client.partyId inquiry.request.clOrdId

/-- The state between two events. -/
structure Kept (polling : Polling) : Prop where
  placed : ∀ inquiry ∈ polling.unanswered, Placed polling.world inquiry
  served : ∀ inquiry ∈ polling.unanswered, polling.world.Ready inquiry.session →
    ∃ keepAlive, polling.world.controller.findReqId .ordStatusReqId inquiry.sent.ordStatusReqId =
      some (inquiry.session, inquiry.request.ordStatusReqId, keepAlive)
  backed : ∀ id session own keepAlive,
    polling.world.controller.findReqId .ordStatusReqId id = some (session, own, keepAlive) →
    polling.world.Alive session ∧ ∃ inquiry ∈ polling.unanswered, inquiry.session = session ∧
      inquiry.sent.ordStatusReqId = id ∧ inquiry.request.ordStatusReqId = own

theorem kept_create (users : Map String (String × Nat)) (realtime : Nat) : (create users realtime).Kept where
  placed _ member := nomatch member
  served _ member := nomatch member
  backed _ _ _ _ entry := nomatch entry

private theorem eq_of_report {report : ExecutionReport} (given : report ∈ input.report) :
    ∃ msgSeqNum, input = .serverRead msgSeqNum (.response (.executionReport report)) := by
  unfold Input.report at given
  split at given
  · cases given
    exact ⟨_, rfl⟩
  · cases given

private theorem mem_of_remaining {inquiry : Inquiry} (left : inquiry ∈ before.remaining input) :
    inquiry ∈ before.unanswered := by
  unfold remaining at left
  split at left
  · exact left
  · exact List.mem_of_mem_eraseP left

private theorem mem_remaining {inquiry : Inquiry} (member : inquiry ∈ before.unanswered)
    (unanswered : ∀ report ∈ input.report, ¬ inquiry.Answered report) : inquiry ∈ before.remaining input := by
  unfold remaining
  split
  · exact member
  · next report given => exact (List.mem_eraseP_of_neg (by simpa using unanswered report given)).mpr member

theorem mem_unanswered (step : Step env before input after) {inquiry : Inquiry} :
    inquiry ∈ after.unanswered ↔ inquiry ∈ before.remaining input ∨ inquiry ∈ before.world.inquiries input after.world := by
  rw [step.recorded, List.mem_append]

private theorem Placed.alive_before {before after : World} {inquiry : Inquiry} (placed : Placed before inquiry)
    (step : World.Step env before input after) (reachable : World.Reachable env before) {last : Client.Session}
    (heldAfter : after.session inquiry.session = some last) (alive : last.state ≠ .zombie) :
    ∃ client, before.session inquiry.session = some client ∧ client.state ≠ .zombie := by
  cases held : before.session inquiry.session with
  | none =>
    have fresh := (World.arrives_of_absence (step.absent reachable held) heldAfter).1
    have known := placed.known
    omega
  | some client =>
    refine ⟨client, rfl, fun zombie => ?_⟩
    exact alive (World.zombie_stays step reachable held zombie heldAfter)

private theorem placed_step {before after : World} (step : World.Step env before input after)
    (reachable : World.Reachable env before)
    {inquiry : Inquiry} (placed : Placed before inquiry) : Placed after inquiry := by
  have ids : before.roster.lastSession ≤ after.roster.lastSession := (step.round reachable).1.lastSession
  refine ⟨Nat.le_trans placed.known ids, fun last heldAfter alive => ?_⟩
  obtain ⟨client, held, living⟩ := placed.alive_before step reachable heldAfter alive
  obtain ⟨serving, id, order⟩ := placed.sender client held living
  obtain ⟨still, party, -⟩ := step.serves reachable held serving heldAfter alive
  exact ⟨still, by rw [party, id], by rw [party, order]⟩

private theorem ready_before {before after : World} (step : World.Step env before input after)
    (reachable : World.Reachable env before) {inquiry : Inquiry} (placed : Placed before inquiry)
    (ready : after.Ready inquiry.session) : before.Ready inquiry.session := by
  obtain ⟨last, heldAfter, state⟩ := ready
  have alive : last.state ≠ .zombie := by simp [state]
  obtain ⟨client, held, living⟩ := placed.alive_before step reachable heldAfter alive
  obtain ⟨-, -, was⟩ := step.serves reachable held (placed.sender client held living).1 heldAfter alive
  exact ⟨client, held, was state⟩

private theorem placed_new (step : World.Step env before.world input after.world)
    (reachable : World.Reachable env before.world)
    {inquiry : Inquiry} (new : inquiry ∈ before.world.inquiries input after.world) : Placed after.world inquiry := by
  obtain ⟨client, held, ready, order, opens⟩ := step.inquires reachable new
  obtain ⟨plays, registered⟩ := step.round reachable
  have known : inquiry.session ≤ before.world.roster.lastSession :=
    registered.known _ (Option.ne_none_iff_exists'.mpr ⟨client, held⟩)
  obtain ⟨party, standing, id⟩ := opens.stamped (fun fresh => fresh)
  rw [World.view_session held] at standing
  obtain ⟨-, rfl⟩ := Prod.mk.inj (Option.some.inj standing)
  refine ⟨Nat.le_trans known plays.lastSession, fun last heldAfter alive => ?_⟩
  have same : after.world.view.session inquiry.session = before.world.view.session inquiry.session := by rw [opens.sessions]
  rw [World.view_session heldAfter, World.view_session held] at same
  obtain ⟨state, party⟩ := Prod.mk.inj (Option.some.inj same)
  exact ⟨by simp [state, ready, Client.State.Serving], by rw [party, id], by rw [party, order]⟩

private theorem entry_own (kept : before.Kept) (consistent : before.world.view.Consistent)
    (distinct : before.world.view.Distinct) {session other : Nat} {party own name : String} {keepAlive : Bool}
    (ready : before.world.view.session session = some (.ready, party))
    (entry : before.world.controller.findReqId .ordStatusReqId (createRequestId party own) = some (other, name, keepAlive)) :
    other = session ∧ name = own := by
  have plain := consistent.indexed.plain session .ready party ready trivial
  obtain ⟨made, plainMade, same⟩ :=
    consistent.indexed.stampedEntry .ordStatusReqId (fun fresh => fresh) _ other name keepAlive entry
  obtain ⟨-, rfl⟩ := createRequestId_inj plain plainMade same
  obtain ⟨⟨client, held, alive⟩, inquiry, member, rfl, id, -⟩ := kept.backed _ other own keepAlive entry
  obtain ⟨serving, sent, -⟩ := (kept.placed inquiry member).sender client held alive
  have heldOther := World.view_session held
  have plainOther := consistent.indexed.plain _ _ _ heldOther serving.active
  obtain ⟨rfl, -⟩ := createRequestId_inj plain plainOther (id.symm.trans sent)
  refine ⟨distinct _ _ _ _ _ heldOther ready ?_ ?_, rfl⟩
  · exact World.serving_view.mpr ⟨client, held, serving⟩
  · exact Or.inl (by simp [ready])

private theorem report_frees {before after : World} {msgSeqNum : Nat} {report : ExecutionReport}
    (step : World.Step env before (.serverRead msgSeqNum (.response (.executionReport report))) after)
    (nonempty : report.ordStatusReqId ≠ "") : after.controller.findReqId .ordStatusReqId report.ordStatusReqId = none := by
  rw [step.response, Controller.findReqId_response env (.executionReport report) .ordStatusReqId nonempty]
  split
  · rfl
  · next kept =>
    -- every report under the id of an entry drops it
    rw [← Option.not_isSome_iff_eq_none]
    intro found
    obtain ⟨entry, found⟩ := Option.isSome_iff_exists.mp found
    exact kept ⟨rfl, by simp [found, Response.drops, nonempty]⟩

theorem dropless {before : World} {id : String} (unreported : ∀ report ∈ input.report, report.ordStatusReqId ≠ id) :
    ¬ before.Drops .ordStatusReqId id input := by
  intro drops
  cases input with
  | serverRead msgSeqNum message =>
    cases message with
    | response value =>
      obtain ⟨same, entry, -, dropped⟩ := drops
      have mapped := Response.mapping_of_drops (by simp) dropped
      cases value with
      | executionReport report => exact unreported report rfl same.symm
      | businessMessageReject value => cases dropped
      | _ => cases mapped
    | _ => exact drops
  | _ => exact drops

private theorem not_unsubscribes {world : World} {id : String} : ¬ world.Unsubscribes .ordStatusReqId id input := by
  intro ends
  cases input with
  | read session clock header message =>
    cases message with
    | request request =>
      have named := ends.named
      cases request with
      | orderStatusRequest => cases ends.type
      | _ => cases named
    | _ => exact ends
  | _ => exact ends

private theorem served_step (step : Step env before input after) (reachable : World.Reachable env before.world)
    (distinct : before.world.DistinctParties) (steady : before.Steady input) (kept : before.Kept) {inquiry : Inquiry}
    (member : inquiry ∈ after.unanswered) (ready : after.world.Ready inquiry.session) :
    ∃ keepAlive, after.world.controller.findReqId .ordStatusReqId inquiry.sent.ordStatusReqId =
      some (inquiry.session, inquiry.request.ordStatusReqId, keepAlive) := by
  have consistent := World.consistent_of_reachable reachable
  have apart := World.distinct_view distinct
  obtain left | new := (mem_unanswered step).mp member
  · have asked := mem_of_remaining left
    have was := ready_before step.step reachable (kept.placed inquiry asked) ready
    obtain ⟨keepAlive, entry⟩ := kept.served inquiry asked was
    refine ⟨keepAlive, World.entry_survives step.step consistent entry ?_ not_unsubscribes ?_⟩
    · exact dropless fun report given same => steady.1 report given inquiry left same.symm was
    · intro owner own key
      have same : inquiry.session = owner := by
        by_contra different
        exact Router.entry_apart consistent.indexed apart different key _ _ entry
      obtain ⟨client, held, state⟩ := ready
      exact same ▸ ⟨client, held, by simp [state]⟩
  · obtain ⟨client, held, state, -, opens⟩ := step.step.inquires reachable new
    have entry : after.world.controller.findReqId .ordStatusReqId inquiry.sent.ordStatusReqId =
        some ((before.world.controller.findReqId .ordStatusReqId inquiry.sent.ordStatusReqId).getD
          (inquiry.session, inquiry.request.ordStatusReqId, false)) := opens.entry
    obtain ⟨party, standing, id⟩ := opens.stamped (fun fresh => fresh)
    cases older : before.world.controller.findReqId .ordStatusReqId inquiry.sent.ordStatusReqId with
    | none => exact ⟨false, by rw [entry, older]; rfl⟩
    | some pair =>
      obtain ⟨owner, own, keepAlive⟩ := pair
      obtain ⟨rfl, rfl⟩ := entry_own kept consistent apart standing (id ▸ older)
      exact ⟨keepAlive, by rw [entry, older]; rfl⟩

private theorem backed_step (step : Step env before input after) (reachable : World.Reachable env before.world)
    (steady : before.Steady input) (kept : before.Kept) {id own : String} {session : Nat} {keepAlive : Bool}
    (entry : after.world.controller.findReqId .ordStatusReqId id = some (session, own, keepAlive)) :
    after.world.Alive session ∧ ∃ inquiry ∈ after.unanswered, inquiry.session = session ∧
      inquiry.sent.ordStatusReqId = id ∧ inquiry.request.ordStatusReqId = own := by
  have consistent := World.consistent_of_reachable reachable
  have nonempty := World.entry_nonempty (step.step.consistent consistent) entry
  obtain ⟨flag, older⟩ | asks := World.entry_step step.step consistent entry
  · obtain ⟨⟨client, held, alive⟩, inquiry, member, rfl, rfl, rfl⟩ := kept.backed id session own flag older
    have left : inquiry ∈ before.remaining input := by
      refine mem_remaining member fun report given answered => ?_
      obtain ⟨msgSeqNum, rfl⟩ := eq_of_report given
      have gone := report_frees step.step (answered.1 ▸ nonempty)
      rw [← answered.1, entry] at gone
      cases gone
    refine ⟨?_, inquiry, (mem_unanswered step).mpr (Or.inl left), rfl, rfl, rfl⟩
    by_cases unnamed : inquiry.request.ordStatusReqId = ""
    · exact (step.step.alive_iff reachable held ((kept.placed inquiry member).sender client held alive).1).mpr
        fun loses => steady.2 (World.orphans_iff.mpr ⟨_, _, flag, unnamed ▸ older, loses⟩)
    · -- an entry under an id of its own has a key, which does not outlive its session
      have key := (step.step.consistent consistent).indexed.registered .ordStatusReqId _ _ _ _ entry fun _ => unnamed
      have serving := (step.step.consistent consistent).indexed.serving .ordStatusReqId _
        ((step.step.consistent consistent).indexed.held .ordStatusReqId _ _ _ key)
      obtain ⟨last, heldAfter, serves⟩ := World.serving_view.mp serving
      exact ⟨last, heldAfter, serves.alive⟩
  · obtain ⟨inquiry, new, rfl, rfl, rfl⟩ := asks.inquires
    obtain ⟨client, held, ready, -, opens⟩ := step.step.inquires reachable new
    refine ⟨?_, inquiry, (mem_unanswered step).mpr (Or.inr new), rfl, rfl, rfl⟩
    have same : after.world.view.session inquiry.session = some (.ready, client.partyId) := by
      rw [opens.sessions, World.view_session held, ready]
    obtain ⟨last, heldAfter, state⟩ := World.ready_iff.mpr ⟨_, same⟩
    exact ⟨last, heldAfter, by simp [state]⟩

theorem kept_step (step : Step env before input after) (reachable : World.Reachable env before.world)
    (distinct : before.world.DistinctParties) (steady : before.Steady input) (kept : before.Kept) : after.Kept where
  placed inquiry member := by
    obtain left | new := (mem_unanswered step).mp member
    · exact placed_step step.step reachable (kept.placed inquiry (mem_of_remaining left))
    · exact placed_new step.step reachable new
  served _ member ready := served_step step reachable distinct steady kept member ready
  backed _ _ _ _ entry := backed_step step reachable steady kept entry

/-- The entry of a request without an id of its own has no key, and outlives its session. -/
private theorem orphan_survives {before after : World} (step : World.Step env before input after)
    (consistent : before.view.Consistent) {id : String} {session : Nat} {keepAlive : Bool}
    (entry : before.controller.findReqId .ordStatusReqId id = some (session, "", keepAlive))
    (unreported : ∀ report ∈ input.report, report.ordStatusReqId ≠ id) :
    after.controller.findReqId .ordStatusReqId id = some (session, "", keepAlive) := by
  refine World.entry_survives step consistent entry (dropless unreported) not_unsubscribes fun owner own keyed => ?_
  have stamped : ¬ MappingName.Fresh .ordStatusReqId := fun fresh => fresh
  have key : (before.view.index .ordStatusReqId).key owner own = some id := keyed
  obtain ⟨made, plainMade, rfl⟩ := consistent.indexed.stampedEntry .ordStatusReqId stamped _ _ _ _ entry
  obtain ⟨-, party, -, -, plain, same⟩ := Router.key_stamped consistent.indexed stamped key
  obtain ⟨-, rfl⟩ := createRequestId_inj plainMade plain same
  rw [consistent.indexed.unkeyed owner] at key
  cases key

/-- Every answer reaches the session that asked, if it is ready, under the ids it asked with. -/
def Answering (env : Env) (polling : Polling) : Prop :=
  ∀ msgSeqNum report after, Step env polling (.serverRead msgSeqNum (.response (.executionReport report))) after →
    ∀ inquiry ∈ polling.unanswered, inquiry.Answered report → polling.world.Ready inquiry.session →
      ∃ number, after.world.controller.log = polling.world.controller.log ++
        [.toClient inquiry.session number (.response (.executionReport
          { report with
            ordStatusReqId := inquiry.request.ordStatusReqId
            clOrdId := inquiry.request.clOrdId
            origClOrdId := getClientClOrdId report.origClOrdId }))]

/-- No entry of an order status request outlives its session. -/
def Swept (polling : Polling) : Prop :=
  ∀ id session own keepAlive,
    polling.world.controller.findReqId .ordStatusReqId id = some (session, own, keepAlive) → polling.world.Alive session

private theorem answering_of_kept (reachable : World.Reachable env before.world) (kept : before.Kept) :
    before.Answering env := by
  intro msgSeqNum report after step inquiry member answered ready
  have consistent := World.consistent_of_reachable reachable
  obtain ⟨keepAlive, entry⟩ := kept.served inquiry member ready
  have nonempty := World.entry_nonempty consistent entry
  rw [answered.1] at entry nonempty
  obtain ⟨client, held, state⟩ := ready
  have plain := consistent.indexed.plain _ _ _ (World.view_session held) (by simp [state, Client.State.Active])
  obtain ⟨-, -, order⟩ := (kept.placed inquiry member).sender client held (by simp [state])
  have own : getClientClOrdId report.clOrdId = inquiry.request.clOrdId := by
    rw [← answered.2, order, getClientClOrdId_createRequestId plain]
  have mapped : (Response.executionReport report).mapping = some .ordStatusReqId := by simp [Response.mapping, nonempty]
  have delivered := step.step.delivers mapped entry held state
  simp only [Response.addressed, own] at delivered
  exact ⟨_, delivered⟩

private theorem swept_of_kept (kept : before.Kept) : before.Swept := fun id session own keepAlive entry =>
  (kept.backed id session own keepAlive entry).1

private theorem ready_after {before after : World} {msgSeqNum : Nat} {response : Response} {session : Nat}
    (step : World.Step env before (.serverRead msgSeqNum (.response response)) after)
    (reachable : World.Reachable env before) (ready : before.Ready session) : after.Ready session := by
  obtain ⟨client, held, state⟩ := ready
  obtain ⟨plays, registered⟩ := step.round reachable
  obtain ⟨deed, last, allowed, fate⟩ := plays.fate registered held
  have same : last.state = .ready := by
    obtain rfl | ⟨-, told, rfl⟩ := allowed
    · exact fate.state.trans state
    · exact fate.state.trans state
  exact ⟨last, World.kept_of_fate fate (by simp [same]), same⟩

private theorem unheard_of_missing {report : ExecutionReport}
    (up : before.world.controller.serverSession.state ≠ .disconnected)
    (nonempty : report.ordStatusReqId ≠ "")
    (missing : before.world.controller.findReqId .ordStatusReqId report.ordStatusReqId = none)
    (echoed : ∃ inquiry ∈ before.unanswered, inquiry.Answered report) (msgSeqNum : Nat) :
    ∃ after, Step env before (.serverRead msgSeqNum (.response (.executionReport report))) after ∧
      after.world.controller.log = before.world.controller.log := by
  let received : Controller := { before.world.controller with
    serverSession := { before.world.controller.serverSession with inboundMsgSeqNum := msgSeqNum } }
  let world : World := ⟨received.response env (.executionReport report), before.world.answered⟩
  refine ⟨⟨world, before.remaining _ ++ before.world.inquiries _ world⟩, ⟨⟨up, rfl, ?_⟩, ?_, rfl⟩, ?_⟩
  · simp [world, Input.answer]
  · intro other given inquiry member same
    cases given
    exact echoed
  · have mapped : (Response.executionReport report).mapping = some .ordStatusReqId := by simp [Response.mapping, nonempty]
    obtain ⟨response, -, silent | ⟨session, own, keepAlive, client, number, found, -⟩⟩ :=
      Controller.response_delivered env mapped received
    · exact silent
    · have absent : received.findReqId .ordStatusReqId report.ordStatusReqId = none := missing
      rw [show received.findReqId .ordStatusReqId report.ordStatusReqId = _ from found] at absent
      cases absent

private theorem steady_of_answering (step : Step env before input after) (reachable : World.Reachable env before.world)
    (kept : before.Kept) (answering : after.Answering env) (swept : after.Swept) : before.Steady input := by
  have consistent := World.consistent_of_reachable reachable
  constructor
  · intro report given inquiry left same ready
    obtain ⟨msgSeqNum, rfl⟩ := eq_of_report given
    obtain ⟨keepAlive, entry⟩ := kept.served inquiry (mem_of_remaining left) ready
    have nonempty := same ▸ World.entry_nonempty consistent entry
    have gone := report_frees step.step nonempty
    obtain ⟨client, held, state⟩ := ready_after step.step reachable ready
    have up : after.world.view.upstream = .ready :=
      (step.step.consistent consistent).sound.connected _ _ _ (World.view_session held) (by simp [state, Client.State.Active])
    have linked : after.world.controller.serverSession.state ≠ .disconnected := by
      intro down
      cases up.symm.trans down
    -- upstream goes on to answer the other request
    let reply : ExecutionReport := { report with clOrdId := inquiry.sent.clOrdId }
    have waits : inquiry ∈ after.unanswered := (mem_unanswered step).mpr (Or.inl left)
    have answers : inquiry.Answered reply := ⟨same, rfl⟩
    obtain ⟨last, late, unheard⟩ := @unheard_of_missing env after reply linked nonempty gone ⟨inquiry, waits, answers⟩ msgSeqNum
    obtain ⟨number, log⟩ := answering _ _ _ late inquiry waits answers ⟨client, held, state⟩
    rw [unheard] at log
    simp at log
  · intro orphans
    obtain ⟨id, session, keepAlive, entry, loses⟩ := World.orphans_iff.mp orphans
    obtain ⟨⟨client, held, alive⟩, inquiry, member, rfl, -, -⟩ := kept.backed id session "" keepAlive entry
    obtain ⟨serving, -, -⟩ := (kept.placed inquiry member).sender client held alive
    have left := orphan_survives step.step consistent entry fun report given => by
      obtain ⟨msgSeqNum, rfl⟩ := eq_of_report given
      obtain ⟨_, -, quits⟩ := loses
      exact quits.elim
    exact (step.step.alive_iff reachable held serving).mp (swept id _ _ _ left) loses

section Runs
variable {users : Map String (String × Nat)} {realtime : Nat} {inputs : List Input} {polling : Polling}

/-- Any number of order status requests of any sessions, with and without ids of their own: after
every event each answer will reach the session that asked, and no entry has outlived its
session, exactly in the runs in which every event meets the condition. -/
theorem inquiries_answered_iff :
    Run (fun before input after => before.world.DistinctParties ∧ before.Steady input ∧ Step env before input after)
        (create users realtime) inputs polling ↔
      Run (fun before input after => (before.world.DistinctParties ∧ Step env before input after) ∧
        after.Answering env ∧ after.Swept) (create users realtime) inputs polling := by
  have start : World.Reachable env (create users realtime).world ∧ (create users realtime).Kept :=
    ⟨⟨users, realtime, [], .nil _⟩, kept_create users realtime⟩
  constructor
  · intro run
    refine run.mono_of (fun polling => World.Reachable env polling.world ∧ polling.Kept) ?_ ?_ start
    · rintro before input after ⟨distinct, steady, step⟩ ⟨reachable, kept⟩
      exact ⟨reachable.step step.step, kept_step step reachable distinct steady kept⟩
    · rintro before input after ⟨distinct, steady, step⟩ ⟨reachable, kept⟩
      have keptAfter := kept_step step reachable distinct steady kept
      exact ⟨⟨distinct, step⟩, answering_of_kept (reachable.step step.step) keptAfter, swept_of_kept keptAfter⟩
  · intro run
    refine run.mono_of (fun polling => World.Reachable env polling.world ∧ polling.Kept) ?_ ?_ start
    · rintro before input after ⟨⟨distinct, step⟩, answering, swept⟩ ⟨reachable, kept⟩
      have steady := steady_of_answering step reachable kept answering swept
      exact ⟨reachable.step step.step, kept_step step reachable distinct steady kept⟩
    · rintro before input after ⟨⟨distinct, step⟩, answering, swept⟩ ⟨reachable, kept⟩
      exact ⟨distinct, steady_of_answering step reachable kept answering swept, step⟩

def next (condition : Polling → Input → Prop) [∀ polling input, Decidable (condition polling input)] (env : Env)
    (polling : Polling) (input : Input) : Option Polling :=
  if condition polling input ∧ ∀ report ∈ input.report, ∀ inquiry ∈ polling.unanswered,
      inquiry.sent.ordStatusReqId = report.ordStatusReqId → ∃ other ∈ polling.unanswered, other.Answered report then
    (World.next (fun _ _ => True) env polling.world input).map fun world =>
      { world, unanswered := polling.remaining input ++ polling.world.inquiries input world }
  else none

theorem next_eq_some {condition : Polling → Input → Prop} [∀ polling input, Decidable (condition polling input)]
    (performed : next condition env before input = some after) : condition before input ∧ Step env before input after := by
  unfold next at performed
  split at performed
  · next met =>
    obtain ⟨world, done, rfl⟩ := Option.map_eq_some_iff.mp performed
    exact ⟨met.1, (World.next_eq_some _ env done).2, met.2, rfl⟩
  · cases performed

instance (world : World) (session : Nat) : Decidable (world.Ready session) :=
  decidable_of_iff (∃ client ∈ world.session session, client.state = .ready) Iff.rfl

instance (before : Polling) (input : Input) : Decidable (before.Steady input) := by
  unfold Steady
  infer_instance

instance (world : World) : Decidable world.DistinctParties := by
  unfold World.DistinctParties
  infer_instance

theorem exists_run (condition : Polling → Input → Prop) [∀ polling input, Decidable (condition polling input)] (env : Env)
    (users : Map String (String × Nat)) (realtime : Nat) (inputs : List Input) (holds : Polling → Bool)
    (checked : (inputs.foldlM (next condition env) (create users realtime)).any holds = true) :
    ∃ polling, Run (fun before input after => condition before input ∧ Step env before input after)
      (create users realtime) inputs polling ∧ holds polling = true := by
  obtain ⟨polling, computed, held⟩ := (Option.any_eq_true ..).mp checked
  exact ⟨polling, .of_foldlM next_eq_some computed, held⟩

private theorem exists_unheard (env : Env) (users : Map String (String × Nat)) (realtime : Nat) (inputs : List Input)
    (inquiry : Inquiry) (msgSeqNum : Nat) (report : ExecutionReport) (answered : inquiry.Answered report)
    (checked : (inputs.foldlM (next (fun before _ => before.world.DistinctParties) env) (create users realtime)).any
      (fun polling => decide (inquiry ∈ polling.unanswered) && decide (polling.world.Ready inquiry.session) &&
        (next (fun _ _ => True) env polling (.serverRead msgSeqNum (.response (.executionReport report)))).any
          fun after => after.world.controller.log == polling.world.controller.log) = true) :
    ∃ polling, Run (fun before input after => before.world.DistinctParties ∧ Step env before input after)
      (create users realtime) inputs polling ∧ ¬ polling.Answering env := by
  obtain ⟨polling, run, held⟩ := exists_run _ env users realtime inputs _ checked
  simp only [Bool.and_eq_true, decide_eq_true_eq] at held
  obtain ⟨⟨member, ready⟩, unheard⟩ := held
  obtain ⟨after, performed, same⟩ := (Option.any_eq_true ..).mp unheard
  refine ⟨polling, run, fun answering => ?_⟩
  obtain ⟨number, log⟩ := answering msgSeqNum report after (next_eq_some performed).2 inquiry member answered ready
  rw [beq_iff_eq.mp same] at log
  simp at log

def status (ordStatusReqId clOrdId : String) : OrderStatusRequest where
  ordStatusReqId := ordStatusReqId
  clOrdId := clOrdId
  noPartyIds := []
  account := "A1"
  symbol := "BTC-PERPETUAL"
  securityExchange := "deribit"
  side := 1
  isValid := true

def inquiry (session : Nat) (ordStatusReqId clOrdId : String) : Inquiry where
  session := session
  request := status ordStatusReqId clOrdId
  sent :=
    { status ("proxy-1:" ++ ordStatusReqId) ("proxy-1:" ++ clOrdId) with
      noPartyIds := Client.ownParties { logonTimeout := 0, partyId := "1" } }

def report (ordStatusReqId clOrdId : String) : ExecutionReport :=
  { Deployment.executionReport ("proxy-1:" ++ clOrdId) .orderStatus .new with
    ordStatusReqId := "proxy-1:" ++ ordStatusReqId
    lastRptRequested := true }

def asksFor (session : Nat) (ordStatusReqId clOrdId : String) : Input :=
  Deployment.asks session (.orderStatusRequest (status ordStatusReqId clOrdId))

def answers (ordStatusReqId clOrdId : String) : Input := Deployment.replies (.executionReport (report ordStatusReqId clOrdId))

/-- The client asks for two orders without ids and hears of the first only; its session ends
and leaves an entry behind, so that its next session does not hear of an order either. -/
theorem inquiries_unanswered :
    (∃ polling, Run (fun before input after => before.world.DistinctParties ∧ Step Deployment.env before input after)
      (create Deployment.users 0) (Deployment.loggedOn ++ [asksFor 1 "" "AAAA", asksFor 1 "" "BBBB", answers "" "AAAA"])
      polling ∧ ¬ polling.Answering Deployment.env) ∧
    (∃ polling, Run (fun before input after => before.world.DistinctParties ∧ Step Deployment.env before input after)
      (create Deployment.users 0) (Deployment.loggedOn ++ [asksFor 1 "" "AAAA", .disconnected 1]) polling ∧
      ¬ polling.Swept) ∧
    ∃ polling, Run (fun before input after => before.world.DistinctParties ∧ Step Deployment.env before input after)
      (create Deployment.users 0) (Deployment.loggedOn ++ [asksFor 1 "" "AAAA", .disconnected 1,
        Deployment.answer "proxy-2" "1" .notLoggedIn] ++ Deployment.arrives 2 "trader" "secret" ++
        [Deployment.answer "proxy-3" "1" .loggedIn, asksFor 2 "" "BBBB"]) polling ∧
      ¬ polling.Answering Deployment.env := by
  refine ⟨?_, ?_, ?_⟩
  · exact exists_unheard Deployment.env Deployment.users 0 _ (inquiry 1 "" "BBBB") 2 (report "" "BBBB") (by decide)
      (by decide +kernel)
  · obtain ⟨polling, run, checked⟩ := exists_run (fun before _ => before.world.DistinctParties) Deployment.env
      Deployment.users 0 (Deployment.loggedOn ++ [asksFor 1 "" "AAAA", .disconnected 1])
      (fun polling => polling.world.controller.findReqId .ordStatusReqId "proxy-1:" == some (1, "", false) &&
        (polling.world.session 1).all fun client => client.state == .zombie) (by decide +kernel)
    simp only [Bool.and_eq_true, beq_iff_eq] at checked
    obtain ⟨left, zombie⟩ := checked
    refine ⟨polling, run, fun swept => ?_⟩
    obtain ⟨client, held, alive⟩ := swept _ _ _ _ left
    rw [held] at zombie
    exact alive (beq_iff_eq.mp zombie)
  · exact exists_unheard Deployment.env Deployment.users 0 _ (inquiry 2 "" "BBBB") 2 (report "" "BBBB") (by decide)
      (by decide +kernel)

/-- A client asks for two orders, for one without an id, and is answered about both. -/
theorem inquiries_answered_both : ∃ polling,
    Run (fun before input after => (before.world.DistinctParties ∧ Step Deployment.env before input after) ∧
        after.Answering Deployment.env ∧ after.Swept) (create Deployment.users 0)
      (Deployment.loggedOn ++ [asksFor 1 "" "AAAA", asksFor 1 "X" "BBBB", answers "X" "BBBB", answers "" "AAAA"]) polling ∧
    polling.unanswered = [] := by
  obtain ⟨polling, run, checked⟩ := exists_run (fun before input => before.world.DistinctParties ∧ before.Steady input)
    Deployment.env Deployment.users 0
    (Deployment.loggedOn ++ [asksFor 1 "" "AAAA", asksFor 1 "X" "BBBB", answers "X" "BBBB", answers "" "AAAA"])
    (fun polling => polling.unanswered.isEmpty) (by decide +kernel)
  refine ⟨polling, inquiries_answered_iff.mp (run.mono fun performed => ?_), List.isEmpty_iff.mp checked⟩
  exact ⟨performed.1.1, performed.1.2, performed.2⟩

end Runs
end Polling
end FixProxy
