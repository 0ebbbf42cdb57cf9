import FixProxy.Deployment
import FixProxy.Proofs.Authenticity
import FixProxy.Proofs.Persistence

/-! Concurrent requests for positions. The reports of all of them are counted by one
counter, which every ack sets anew. -/

namespace FixProxy
open Codec

/-- What upstream sends for requests for positions. -/
inductive PositionMessage where
  | ack (value : RequestForPositionsAck)
  | report (value : PositionReport)

namespace PositionMessage

def response : PositionMessage → Response
  | .ack value => .requestForPositionsAck value
  | .report value => .positionReport value

def posReqId : PositionMessage → String
  | .ack value => value.posReqId
  | .report value => value.posReqId

def IsReport : PositionMessage → Prop
  | .ack _ => False
  | .report _ => True

private theorem response_id (message : PositionMessage) : message.response.id .posReqId = message.posReqId := by
  cases message <;> rfl

private theorem response_mapping (message : PositionMessage) : message.response.mapping = some .posReqId := by
  cases message <;> rfl

private theorem last_ack {messages : List PositionMessage} {value : RequestForPositionsAck} (acked : .ack value ∈ messages) :
    ∃ earlier ack since, messages = earlier ++ .ack ack :: since ∧ ∀ message ∈ since, message.IsReport := by
  induction messages using List.reverseRecOn with
  | nil => cases acked
  | append_singleton messages message ih =>
    cases message with
    | ack ack => exact ⟨messages, ack, [], rfl, fun _ none => nomatch none⟩
    | report report =>
      obtain ⟨earlier, ack, since, rfl, reports⟩ := ih (by simpa using acked)
      refine ⟨earlier, ack, since ++ [.report report], by simp, fun message member => ?_⟩
      rcases List.mem_append.mp member with older | new
      · exact reports message older
      · rw [List.mem_singleton.mp new]
        trivial

end PositionMessage

namespace Controller
variable {controller : Controller}

private theorem reports_removeReqId (name : MappingName) (reqId : String) (controller : Controller) :
    (controller.removeReqId name reqId).totalNumPosReports = controller.totalNumPosReports := by
  unfold removeReqId
  split
  · rfl
  · simp only
    split <;> rfl

private theorem reports_dispatchToClient (response : Response) (session : Nat) (controller : Controller) :
    (controller.dispatchToClient response session).totalNumPosReports = controller.totalNumPosReports :=
  congrArg Router.reports (view_dispatchToClient [] controller response session)

private theorem reports_ack {value : RequestForPositionsAck} {entry : Nat × String × Bool}
    (found : controller.findReqId .posReqId value.posReqId = some entry) (valid : value.posReqResult = .valid)
    (accepted : value.posReqStatus ≠ .rejected) :
    (controller.requestForPositionsAck value).totalNumPosReports = value.totalNumPosReports := by
  have succeeds : (value.posReqResult != .valid || value.posReqStatus == .rejected) = false := by simp [valid, accepted]
  unfold requestForPositionsAck
  simp only [found, succeeds, Bool.false_or, Bool.false_eq_true, if_false]
  split
  · rw [reports_removeReqId, reports_dispatchToClient]
  · rw [reports_dispatchToClient]

/-- A report counts it down, whatever request it is for. -/
private theorem reports_report (value : PositionReport) (controller : Controller) :
    (controller.positionReport value).totalNumPosReports = controller.totalNumPosReports - 1 := by
  unfold positionReport route
  simp only
  split
  · rfl
  · split
    · rw [reports_removeReqId, reports_dispatchToClient]
    · rw [reports_dispatchToClient]

end Controller

namespace World
variable {env : Env} {users : Map String (String × Nat)} {realtime : Nat} {inputs : List Input}
  {world before after last : World} {message : PositionMessage} {messages earlier later : List PositionMessage}

def Receives (env : Env) (before : World) (message : PositionMessage) (after : World) : Prop :=
  ∃ msgSeqNum, Step env before (.serverRead msgSeqNum (.response message.response)) after

/-- The server id of a request for positions that is outstanding, and whether it is for updates. -/
def Outstanding (world : World) (serverId : String) (session : Nat) (clientId : String) (updates : Bool) : Prop :=
  world.controller.findReqId .posReqId serverId = some (session, clientId, updates)

/-- A snapshot request is answered by one ack that accepts it and as many valid reports as
the ack announces, or not at all yet; a request for updates has valid reports only. -/
structure Interleaves (world : World) (messages : List PositionMessage) : Prop where
  known : ∀ message ∈ messages, ∃ session clientId updates, world.Outstanding message.posReqId session clientId updates
  answered : ∀ serverId session clientId, world.Outstanding serverId session clientId false →
    messages.filter (·.posReqId = serverId) = [] ∨
      ∃ (ack : RequestForPositionsAck) (reports : List PositionReport),
      messages.filter (·.posReqId = serverId) = .ack ack :: reports.map .report ∧
      ack.posReqResult = .valid ∧ ack.posReqStatus ≠ .rejected ∧ ack.totalNumPosReports = reports.length ∧
      ∀ report ∈ reports, report.posReqResult = .valid
  streamed : ∀ serverId session clientId, world.Outstanding serverId session clientId true →
    ∀ message ∈ messages, message.posReqId = serverId → ∃ report, message = .report report ∧ report.posReqResult = .valid

def Complete (serverId : String) (later : List PositionMessage) : Prop := ∀ message ∈ later, message.posReqId ≠ serverId

/-- A message of a snapshot request is treated as it should be: a report is delivered to the
session that asked, under its own id, and the id is released exactly if no message is to come. -/
structure Served (session : Nat) (clientId : String) (later : List PositionMessage) (before : World)
    (message : PositionMessage) (after : World) : Prop where
  delivered : message.IsReport → ∃ msgSeqNum, after.controller.log = before.controller.log ++
    [.toClient session msgSeqNum (.response (message.response.addressed .posReqId clientId))]
  released : after.Freed .posReqId session clientId message.posReqId ↔ Complete message.posReqId later

/-- At every report for a snapshot request, the last ack before it, of whatever request,
has announced no more reports than have come since, of whatever request, exactly if this
report is the last one of its own request. -/
def Countable (world : World) (messages : List PositionMessage) : Prop :=
  ∀ earlier ack since report later session clientId,
    messages = earlier ++ .ack ack :: since ++ .report report :: later → (∀ message ∈ since, message.IsReport) →
    world.Outstanding report.posReqId session clientId false →
    (ack.totalNumPosReports ≤ since.length + 1 ↔ Complete report.posReqId later)

/-- The sessions with reports to come are ready. -/
def Attended (world : World) (messages : List PositionMessage) : Prop :=
  ∀ report session clientId, .report report ∈ messages → world.Outstanding report.posReqId session clientId false →
    ∃ client, world.session session = some client ∧ client.state = .ready

theorem filter_eq_nil_iff {serverId : String} :
    messages.filter (·.posReqId = serverId) = [] ↔ Complete serverId messages := by
  simp [Complete, List.filter_eq_nil_iff]

theorem Interleaves.snapshot (interleaves : Interleaves world (earlier ++ message :: later)) {session : Nat}
    {clientId : String} (outstanding : world.Outstanding message.posReqId session clientId false) :
    (∃ ack, message = .ack ack ∧ ack.posReqResult = .valid ∧ ack.posReqStatus ≠ .rejected ∧
      Complete message.posReqId earlier ∧ (ack.totalNumPosReports = 0 ↔ Complete message.posReqId later)) ∨
    ∃ report ack, message = .report report ∧ report.posReqResult = .valid ∧ .ack ack ∈ earlier := by
  have split : (earlier ++ message :: later).filter (·.posReqId = message.posReqId) =
      earlier.filter (·.posReqId = message.posReqId) ++ message :: later.filter (·.posReqId = message.posReqId) := by
    simp
  obtain none | ⟨ack, reports, answer, valid, accepted, total, validReports⟩ := interleaves.answered _ _ _ outstanding
  · rw [split] at none
    simp at none
  · rw [split] at answer
    cases heard : earlier.filter (·.posReqId = message.posReqId) with
    | nil =>
      rw [heard] at answer
      obtain ⟨rfl, rest⟩ := List.cons.inj answer
      refine Or.inl ⟨ack, rfl, valid, accepted, filter_eq_nil_iff.mp heard, ?_⟩
      rw [← filter_eq_nil_iff, rest, total]
      simp
    | cons first others =>
      rw [heard] at answer
      obtain ⟨rfl, rest⟩ := List.cons.inj answer
      have member : message ∈ reports.map PositionMessage.report := by
        rw [← rest]
        simp
      obtain ⟨report, inside, rfl⟩ := List.mem_map.mp member
      have acked : PositionMessage.ack ack ∈ earlier.filter (·.posReqId = (PositionMessage.report report).posReqId) := by
        rw [heard]
        exact List.mem_cons_self ..
      exact Or.inr ⟨report, ack, rfl, validReports report inside, List.mem_of_mem_filter acked⟩

/-- What is known of the state after a part of the messages. -/
structure Tracks (world : World) (earlier : List PositionMessage) (before : World) : Prop where
  consistent : before.view.Consistent
  sessions : before.view.session = world.view.session
  kept : ∀ serverId entry, before.controller.findReqId .posReqId serverId = some entry →
    world.controller.findReqId .posReqId serverId = some entry
  unheard : ∀ serverId, Complete serverId earlier →
    before.controller.findReqId .posReqId serverId = world.controller.findReqId .posReqId serverId
  counted : ∀ first ack since, earlier = first ++ .ack ack :: since → (∀ message ∈ since, message.IsReport) →
    before.controller.totalNumPosReports = ack.totalNumPosReports - since.length

theorem Receives.entry (receives : Receives env before message after) (consistent : before.view.Consistent)
    (serverId : String) : after.controller.findReqId .posReqId serverId =
      if serverId = message.posReqId ∧ ((before.controller.findReqId .posReqId serverId).any fun (_, _, keepAlive) =>
          message.response.drops .posReqId before.controller.totalNumPosReports keepAlive) = true then none
      else before.controller.findReqId .posReqId serverId := by
  obtain ⟨msgSeqNum, step⟩ := receives
  by_cases nonempty : serverId = ""
  · have none {world : World} (consistent : world.view.Consistent) : world.controller.findReqId .posReqId serverId = none := by
      cases found : world.controller.findReqId .posReqId serverId with
      | none => rfl
      | some entry => exact absurd nonempty (entry_nonempty consistent found)
    rw [none (step.consistent consistent), none consistent]
    split <;> rfl
  · rw [step.response, Controller.findReqId_response env message.response .posReqId nonempty,
      PositionMessage.response_id]
    rfl

private theorem tracks_step (tracks : Tracks world earlier before) (receives : Receives env before message after)
    (interleaves : Interleaves world (earlier ++ message :: later)) : Tracks world (earlier ++ [message]) after := by
  have entry := receives.entry tracks.consistent
  obtain ⟨msgSeqNum, step⟩ := receives
  have sessions : after.view.session = before.view.session := by
    have same := Controller.response_session env after.answered message.response { before.controller with
      serverSession := { before.controller.serverSession with inboundMsgSeqNum := msgSeqNum } }
    rw [← step.response] at same
    exact same
  refine ⟨step.consistent tracks.consistent, sessions.trans tracks.sessions, fun serverId found held => ?_,
    fun serverId complete => ?_, fun first ack since split reports => ?_⟩
  · rw [entry] at held
    split at held
    · cases held
    · exact tracks.kept serverId found held
  · rw [entry, if_neg, tracks.unheard serverId fun other member => complete other (by simp [member])]
    rintro ⟨rfl, -⟩
    exact complete message (by simp) rfl
  · cases message with
    | ack value =>
      have last : since = [] ∧ first = earlier ∧ ack = value := by
        cases since using List.reverseRecOn with
        | nil =>
          obtain ⟨rfl, same⟩ := List.append_inj' split rfl
          exact ⟨rfl, rfl, by simpa using same.symm⟩
        | append_singleton since final =>
          have same : earlier ++ [.ack value] = (first ++ .ack ack :: since) ++ [final] := by simpa using split
          obtain ⟨-, same⟩ := List.append_inj' same rfl
          obtain rfl := List.singleton_inj.mp same
          exact False.elim (reports (.ack value) (by simp))
      obtain ⟨rfl, rfl, rfl⟩ := last
      obtain ⟨session, clientId, updates, outstanding⟩ := interleaves.known (.ack ack) (by simp)
      cases updates with
      | true =>
        obtain ⟨report, same, -⟩ := interleaves.streamed _ session clientId outstanding (.ack ack) (by simp) rfl
        cases same
      | false =>
        obtain ⟨value, same, valid, accepted, complete, -⟩ | ⟨report, value, same, -⟩ := interleaves.snapshot outstanding
        · cases same
          have found := (tracks.unheard _ complete).trans outstanding
          rw [step.response]
          exact Controller.reports_ack found valid accepted
        · cases same
    | report value =>
      cases since using List.reverseRecOn with
      | nil => simp at split
      | append_singleton since final =>
        have same : earlier ++ [.report value] = (first ++ .ack ack :: since) ++ [final] := by simpa using split
        obtain ⟨older, -⟩ := List.append_inj' same rfl
        have counting := tracks.counted first ack since older fun other member => reports other (by simp [member])
        have counted := Controller.reports_report value { before.controller with
          serverSession := { before.controller.serverSession with inboundMsgSeqNum := msgSeqNum } }
        rw [step.response, List.length_append, List.length_singleton, Nat.sub_add_eq, ← counting]
        exact counted

private theorem tracks_run (consistent : world.view.Consistent) (run : Run (Receives env) world earlier before)
    (interleaves : Interleaves world (earlier ++ later)) : Tracks world earlier before := by
  refine run.history (fun earlier before => ∀ later, Interleaves world (earlier ++ later) → Tracks world earlier before)
    (fun _ _ => ⟨consistent, rfl, fun _ _ => id, fun _ _ => rfl, fun first ack since split => by simp at split⟩)
    (fun _ receives tracks later interleaves => ?_) later interleaves
  rw [List.append_assoc] at interleaves
  exact tracks_step (tracks _ interleaves) receives interleaves

private theorem report_releases {value : PositionReport} (tracks : Tracks world earlier before)
    (receives : Receives env before (.report value) after) {session : Nat} {clientId : String}
    (found : before.controller.findReqId .posReqId value.posReqId = some (session, clientId, false))
    (valid : value.posReqResult = .valid) {first since : List PositionMessage} {ack : RequestForPositionsAck}
    (split : earlier = first ++ .ack ack :: since) (reports : ∀ message ∈ since, message.IsReport) :
    after.controller.findReqId .posReqId value.posReqId = none ↔ ack.totalNumPosReports ≤ since.length + 1 := by
  have counted := tracks.counted first ack since split reports
  rw [receives.entry tracks.consistent, found]
  simp only [PositionMessage.posReqId, PositionMessage.response, Response.drops, Option.any_some, valid, true_and, counted]
  by_cases zero : ack.totalNumPosReports - since.length - 1 = 0
  · simp only [zero, beq_self_eq_true, bne_self_eq_false, Bool.not_false, Bool.and_self, Bool.or_true, if_true, true_iff]
    omega
  · simp only [bne_self_eq_false, beq_eq_false_iff_ne.mpr zero, Bool.false_and, Bool.or_self, Bool.and_false,
      Bool.false_eq_true, if_false, reduceCtorEq, false_iff]
    omega

private theorem ack_releases {ack : RequestForPositionsAck} (consistent : before.view.Consistent)
    (receives : Receives env before (.ack ack) after) {entry : Nat × String × Bool}
    (found : before.controller.findReqId .posReqId ack.posReqId = some entry)
    (valid : ack.posReqResult = .valid) (accepted : ack.posReqStatus ≠ .rejected) :
    after.controller.findReqId .posReqId ack.posReqId = none ↔ ack.totalNumPosReports = 0 := by
  rw [receives.entry consistent, found]
  simp [PositionMessage.posReqId, PositionMessage.response, Response.drops, valid, accepted]

/-- As long as the reports can be told apart by counting, a message whose entry is there
releases it exactly if it is the last one of its request. -/
private theorem releases_last (countable : Countable world (earlier ++ message :: later))
    (interleaves : Interleaves world (earlier ++ message :: later)) (tracks : Tracks world earlier before)
    (receives : Receives env before message after) {session : Nat} {clientId : String}
    (found : before.controller.findReqId .posReqId message.posReqId = some (session, clientId, false)) :
    after.controller.findReqId .posReqId message.posReqId = none ↔ Complete message.posReqId later := by
  have outstanding : world.Outstanding message.posReqId session clientId false := tracks.kept _ _ found
  obtain ⟨ack, rfl, valid, accepted, -, total⟩ | ⟨report, ack, rfl, valid, acked⟩ := interleaves.snapshot outstanding
  · exact (ack_releases tracks.consistent receives found valid accepted).trans total
  · obtain ⟨first, last, since, rfl, reports⟩ := PositionMessage.last_ack acked
    exact (report_releases tracks receives found valid rfl reports).trans
      (countable first last since report later session clientId rfl reports outstanding)

private theorem entry_present (consistent : world.view.Consistent) (countable : Countable world (earlier ++ later))
    (interleaves : Interleaves world (earlier ++ later)) (run : Run (Receives env) world earlier before)
    {serverId : String} {session : Nat} {clientId : String} (outstanding : world.Outstanding serverId session clientId false)
    (incomplete : ¬ Complete serverId later) :
    before.controller.findReqId .posReqId serverId = some (session, clientId, false) := by
  induction earlier using List.reverseRecOn generalizing before later with
  | nil =>
    cases run
    exact outstanding
  | append_singleton earlier message ih =>
    obtain ⟨middle, start, final⟩ := run.split
    cases final with
    | cons receives rest =>
      cases rest
      rw [List.append_assoc] at countable interleaves
      have more : ¬ Complete serverId ([message] ++ later) := fun complete =>
        incomplete fun other member => complete other (List.mem_append_right _ member)
      have found := ih countable interleaves start more
      have tracks := tracks_run consistent start interleaves
      by_cases own : serverId = message.posReqId
      · subst own
        have kept := mt (releases_last countable interleaves tracks receives found).mp incomplete
        have entry := receives.entry tracks.consistent message.posReqId
        split at entry
        · exact absurd entry kept
        · exact entry.trans found
      · rw [receives.entry tracks.consistent, if_neg fun both => own both.1]
        exact found

private theorem found_of_sent (receives : Receives env before message after) {session msgSeqNum : Nat} {sent : Response}
    (log : after.controller.log = before.controller.log ++ [.toClient session msgSeqNum (.response sent)]) :
    ∃ clientId keepAlive, before.controller.findReqId .posReqId message.posReqId = some (session, clientId, keepAlive) ∧
      ∃ client, before.session session = some client ∧ client.state = .ready := by
  obtain ⟨number, step⟩ := receives
  obtain ⟨response, -, delivered⟩ := Controller.response_delivered env message.response_mapping { before.controller with
    serverSession := { before.controller.serverSession with inboundMsgSeqNum := number } }
  rw [← step.response, PositionMessage.response_id] at delivered
  obtain silent | ⟨owner, clientId, keepAlive, client, other, found, held, ready, sent⟩ := delivered
  · rw [log] at silent
    simp at silent
  · obtain ⟨rfl, -, -⟩ : session = owner ∧ _ := by simpa using List.append_cancel_left (log.symm.trans sent)
    exact ⟨clientId, keepAlive, found, client, held, ready⟩

private theorem freed_iff (receives : Receives env before message after) (consistent : before.view.Consistent) {session : Nat}
    {clientId : String} {keepAlive : Bool}
    (found : before.controller.findReqId .posReqId message.posReqId = some (session, clientId, keepAlive)) :
    after.Freed .posReqId session clientId message.posReqId ↔
      after.controller.findReqId .posReqId message.posReqId = none := by
  refine ⟨fun freed => freed.2, fun gone => ?_⟩
  have entry := receives.entry consistent message.posReqId
  obtain ⟨msgSeqNum, step⟩ := receives
  rw [found] at entry
  by_cases dropped : message.response.drops .posReqId before.controller.totalNumPosReports keepAlive = true
  · rw [← PositionMessage.response_id] at found ⊢
    exact step.frees (entry_nonempty consistent found) found dropped
  · rw [gone] at entry
    simp [dropped] at entry

/-- Every message of every snapshot request is treated as it should be, exactly if the
reports can be told apart by counting them, and the sessions are there to receive them. The
entries go back to the requests of the sessions that they name. -/
theorem positions_served_iff (runs : Runs env users realtime inputs world) (interleaves : Interleaves world messages)
    (run : Run (Receives env) world messages last) :
    (∀ serverId session clientId updates, world.Outstanding serverId session clientId updates →
      Requested (fun _ => True) env users realtime inputs world .posReqId session clientId serverId) ∧
    ((∀ earlier message later before after session clientId, messages = earlier ++ message :: later →
        Run (Receives env) world earlier before → Receives env before message after →
        world.Outstanding message.posReqId session clientId false → Served session clientId later before message after) ↔
      Countable world messages ∧ Attended world messages) := by
  have consistent := consistent_of_reachable ⟨users, realtime, inputs, runs⟩
  refine ⟨fun _ _ _ _ outstanding => entry_requested runs outstanding, fun served => ⟨?_, ?_⟩, ?_⟩
  · rintro first ack since report later session clientId rfl reports outstanding
    obtain ⟨before, start, rest⟩ := run.split
    cases rest with
    | @cons _ after _ _ _ receives rest =>
      have tracks := tracks_run consistent start interleaves
      obtain ⟨sent, released⟩ := served (first ++ .ack ack :: since) (.report report) later before after session clientId
        rfl start receives outstanding
      obtain ⟨msgSeqNum, log⟩ := sent trivial
      obtain ⟨own, keepAlive, found, -⟩ := found_of_sent receives log
      obtain ⟨rfl, rfl⟩ : own = clientId ∧ keepAlive = false := by
        have same := (tracks.kept _ _ found).symm.trans outstanding
        simpa using same
      obtain ⟨ack, same, -⟩ | ⟨value, -, same, valid, -⟩ := interleaves.snapshot outstanding
      · cases same
      · cases same
        rw [freed_iff receives tracks.consistent found] at released
        exact (report_releases tracks receives found valid rfl reports).symm.trans released
  · rintro report session clientId member outstanding
    obtain ⟨earlier, later, rfl⟩ := List.mem_iff_append.mp member
    obtain ⟨before, start, rest⟩ := run.split
    cases rest with
    | @cons _ after _ _ _ receives rest =>
      have tracks := tracks_run consistent start interleaves
      obtain ⟨msgSeqNum, log⟩ := (served earlier (.report report) later before after session clientId rfl start receives
        outstanding).delivered trivial
      obtain ⟨-, -, -, ready⟩ := found_of_sent receives log
      rw [ready_iff, tracks.sessions] at ready
      exact ready_iff.mpr ready
  · rintro ⟨countable, attended⟩ earlier message later before after session clientId rfl start receives outstanding
    have tracks := tracks_run consistent start interleaves
    have found := entry_present consistent countable interleaves start outstanding fun complete =>
      complete message (by simp) rfl
    refine ⟨fun isReport => ?_, ?_⟩
    · cases message with
      | ack => exact isReport.elim
      | report report =>
        have ready := attended report session clientId (by simp) outstanding
        rw [ready_iff, ← tracks.sessions] at ready
        obtain ⟨client, held, ready⟩ := ready_iff.mpr ready
        obtain ⟨msgSeqNum, step⟩ := receives
        exact ⟨_, step.delivers (PositionMessage.response_mapping _) (by rw [PositionMessage.response_id]; exact found)
          held ready⟩
    · rw [freed_iff receives tracks.consistent found]
      exact releases_last countable interleaves tracks receives found

private theorem receives_of_run {condition : World → Input → Prop}
    (run : Run (fun before input after => condition before input ∧ Step env before input after) world
      (messages.map fun message => Deployment.replies message.response) last) : Run (Receives env) world messages last := by
  induction messages generalizing world with
  | nil =>
    cases run
    exact .nil _
  | cons message rest ih =>
    cases run with
    | cons head tail => exact .cons ⟨2, head.2⟩ (ih tail)

def asksPositions (posReqId : String) : Input := Deployment.asks 1 (Deployment.positions posReqId .snapshot)

def ackOf (posReqId : String) (totalNumPosReports : Nat) : PositionMessage :=
  .ack (Deployment.positionsAck posReqId totalNumPosReports)

def reportOf (posReqId : String) : PositionMessage := .report (Deployment.positionReport posReqId)

/-- The outstanding requests for positions are snapshot requests under the given ids. -/
def onlySnapshots (serverIds : List String) (world : World) : Bool :=
  (world.controller.mapping .posReqId).serverToClient.toList.all fun entry =>
    serverIds.contains entry.1 && !entry.2.2.2

private theorem snapshot_of_onlySnapshots {serverIds : List String} (only : onlySnapshots serverIds world = true)
    {serverId clientId : String} {session : Nat} {updates : Bool}
    (outstanding : world.Outstanding serverId session clientId updates) : serverId ∈ serverIds ∧ updates = false := by
  have member := List.all_eq_true.mp only _ (Map.mem_toList.mpr outstanding)
  simpa using member

theorem positions_served_iff_loggedOn : ∃ world last,
    Runs Deployment.env Deployment.users 0 (Deployment.loggedOn ++ [asksPositions "AAAA"]) world ∧
      Run (Receives Deployment.env) world [ackOf "proxy-2" 1, reportOf "proxy-2"] last ∧
      last.Freed .posReqId 1 "AAAA" "proxy-2" := by
  obtain ⟨world, middle, last, runs, step, run, checked⟩ := exists_runs_of_replay Regular Deployment.env Deployment.users 0
    (Deployment.loggedOn ++ [asksPositions "AAAA"]) (Deployment.replies (ackOf "proxy-2" 1).response)
    [Deployment.replies (reportOf "proxy-2").response]
    (fun world _ _ => world.controller.findReqId .posReqId "proxy-2" == some (1, "AAAA", false) &&
      onlySnapshots ["proxy-2"] world && (world.session 1).any fun client => client.state == .ready) (by decide +kernel)
  simp only [Bool.and_eq_true, beq_iff_eq, Option.any_eq_true] at checked
  obtain ⟨⟨entry, only⟩, client, held, ready⟩ := checked
  have received : Run (Receives Deployment.env) middle [reportOf "proxy-2"] last := receives_of_run run
  have interleaves : Interleaves world [ackOf "proxy-2" 1, reportOf "proxy-2"] := by
    refine ⟨fun message member => ⟨1, "AAAA", false, ?_⟩, fun serverId session clientId outstanding => Or.inr ?_,
      fun serverId session clientId outstanding => ?_⟩
    · obtain rfl | rfl : message = ackOf "proxy-2" 1 ∨ message = reportOf "proxy-2" := by simpa using member
      · exact entry
      · exact entry
    · obtain rfl : serverId = "proxy-2" := by simpa using (snapshot_of_onlySnapshots only outstanding).1
      exact ⟨Deployment.positionsAck "proxy-2" 1, [Deployment.positionReport "proxy-2"], rfl, rfl, by decide, rfl, by simp [Deployment.positionReport]⟩
    · cases (snapshot_of_onlySnapshots only outstanding).2
  have countable : Countable world [ackOf "proxy-2" 1, reportOf "proxy-2"] := by
    intro earlier ack since report later session clientId split _ _
    have lengths := congrArg List.length split
    simp only [List.length_cons, List.length_nil, List.length_append] at lengths
    obtain rfl := List.length_eq_zero_iff.mp (show earlier.length = 0 by omega)
    obtain rfl := List.length_eq_zero_iff.mp (show since.length = 0 by omega)
    obtain rfl := List.length_eq_zero_iff.mp (show later.length = 0 by omega)
    cases split
    exact iff_of_true (Nat.le_refl 1) fun _ none => nomatch none
  have attended : Attended world [ackOf "proxy-2" 1, reportOf "proxy-2"] := by
    intro report session clientId member outstanding
    have id : report.posReqId = "proxy-2" := by simpa using (snapshot_of_onlySnapshots only outstanding).1
    rw [id] at outstanding
    obtain ⟨rfl, -⟩ : session = 1 ∧ clientId = "AAAA" := by simpa using Option.some.inj (outstanding.symm.trans entry)
    exact ⟨client, held, ready⟩
  have run : Run (Receives Deployment.env) world [ackOf "proxy-2" 1, reportOf "proxy-2"] last := .cons ⟨2, step⟩ received
  have served := (positions_served_iff (runs_of_runsUnder runs) interleaves run).2.mpr ⟨countable, attended⟩
  cases received with
  | cons head rest =>
    cases rest
    exact ⟨world, last, runs_of_runsUnder runs, run, (served [ackOf "proxy-2" 1] (reportOf "proxy-2") [] middle last 1 "AAAA"
      rfl (.single ⟨2, step⟩) head entry).released.mpr fun _ none => nomatch none⟩

/-- Two snapshot requests: the ack of the second makes the first report of the first one
release its id, and the other report is dropped. -/
theorem positions_disturbed : ∃ world released lost last,
    RunsUnder Regular Deployment.env Deployment.users 0
        (Deployment.loggedOn ++ [asksPositions "AAAA", asksPositions "BBBB"]) world ∧
      Interleaves world
        [ackOf "proxy-2" 2, ackOf "proxy-3" 1, reportOf "proxy-2", reportOf "proxy-2", reportOf "proxy-3"] ∧
      Run (Receives Deployment.env) world [ackOf "proxy-2" 2, ackOf "proxy-3" 1, reportOf "proxy-2"] released ∧
      released.controller.findReqId .posReqId "proxy-2" = none ∧
      Receives Deployment.env released (reportOf "proxy-2") lost ∧ lost.controller.log = released.controller.log ∧
      Run (Receives Deployment.env) lost [reportOf "proxy-3"] last := by
  obtain ⟨world, middle, released, runs, step, run, checked⟩ := exists_runs_of_replay Regular Deployment.env
    Deployment.users 0 (Deployment.loggedOn ++ [asksPositions "AAAA", asksPositions "BBBB"])
    (Deployment.replies (ackOf "proxy-2" 2).response)
    [Deployment.replies (ackOf "proxy-3" 1).response, Deployment.replies (reportOf "proxy-2").response]
    (fun world _ released => world.controller.findReqId .posReqId "proxy-2" == some (1, "AAAA", false) &&
      world.controller.findReqId .posReqId "proxy-3" == some (1, "BBBB", false) &&
      onlySnapshots ["proxy-2", "proxy-3"] world &&
      released.controller.findReqId .posReqId "proxy-2" == none &&
      (next Regular Deployment.env released (Deployment.replies (reportOf "proxy-2").response)).any fun lost =>
        lost.controller.log == released.controller.log &&
        (next Regular Deployment.env lost (Deployment.replies (reportOf "proxy-3").response)).isSome) (by decide +kernel)
  simp only [Bool.and_eq_true, beq_iff_eq, Option.any_eq_true, Option.isSome_iff_exists] at checked
  obtain ⟨⟨⟨⟨first, second⟩, only⟩, gone⟩, lost, dropped, silent, last, final⟩ := checked
  refine ⟨world, released, lost, last, runs, ⟨?_, ?_, ?_⟩, .cons ⟨2, step⟩ (receives_of_run run), gone,
    ⟨2, (next_eq_some Regular Deployment.env dropped).2⟩, silent, .single ⟨2, (next_eq_some Regular Deployment.env final).2⟩⟩
  · intro message member
    simp only [List.mem_cons, List.not_mem_nil, or_false] at member
    rcases member with rfl | rfl | rfl | rfl | rfl
    · exact ⟨1, "AAAA", false, first⟩
    · exact ⟨1, "BBBB", false, second⟩
    · exact ⟨1, "AAAA", false, first⟩
    · exact ⟨1, "AAAA", false, first⟩
    · exact ⟨1, "BBBB", false, second⟩
  · intro serverId session clientId outstanding
    refine Or.inr ?_
    obtain rfl | rfl : serverId = "proxy-2" ∨ serverId = "proxy-3" := by
      simpa using (snapshot_of_onlySnapshots only outstanding).1
    · exact ⟨Deployment.positionsAck "proxy-2" 2,
        [Deployment.positionReport "proxy-2", Deployment.positionReport "proxy-2"], rfl, rfl, by decide, rfl,
        by simp [Deployment.positionReport]⟩
    · exact ⟨Deployment.positionsAck "proxy-3" 1, [Deployment.positionReport "proxy-3"], rfl, rfl, by decide, rfl,
        by simp [Deployment.positionReport]⟩
  · intro serverId session clientId outstanding
    cases (snapshot_of_onlySnapshots only outstanding).2

end World
end FixProxy
