import FixProxy.Deployment
import FixProxy.Proofs.Persistence

/-! Snapshot requests for trades. Each message of an answer finds its session as long as no
earlier one has released the id; an ack releases the id of every snapshot request, and so does
the end of each session that has the id. -/

namespace FixProxy
open Codec

def Input.concerning (name : MappingName) (serverId : String) : Input → Option Response
  | .serverRead _ (.response value) => if value.mapping = some name ∧ value.id name = serverId then some value else none
  | _ => none

/-- An answer to a snapshot request: perhaps an ack that accepts it, and reports of which
exactly the last says that it is the last. -/
structure TradeAnswer (serverId : String) (ack : Option TradeCaptureReportRequestAck)
    (reports : List TradeCaptureReport) : Prop where
  accepts : ∀ value ∈ ack, value.tradeRequestId = serverId ∧ value.tradeRequestStatus ≠ .rejected
  addressed : ∀ value ∈ reports, value.tradeRequestId = serverId
  last : ∀ earlier value later, reports = earlier ++ value :: later → (value.lastRptRequested = true ↔ later = [])

def tradeMessages (ack : Option TradeCaptureReportRequestAck) (reports : List TradeCaptureReport) : List Response :=
  (ack.map Response.tradeCaptureReportRequestAck).toList ++ reports.map .tradeCaptureReport

theorem concerning_eq_some {name : MappingName} {serverId : String} {input : Input} {value : Response}
    (concerns : input.concerning name serverId = some value) :
    (∃ msgSeqNum, input = .serverRead msgSeqNum (.response value)) ∧ value.mapping = some name ∧ value.id name = serverId := by
  unfold Input.concerning at concerns
  split at concerns
  · split at concerns
    · next msgSeqNum other both =>
      cases concerns
      exact ⟨⟨msgSeqNum, rfl⟩, both⟩
    · cases concerns
  · cases concerns

private theorem split_of_mem_dropLast {α : Type u} {items : List α} {item : α} (member : item ∈ items.dropLast) :
    ∃ earlier later, items = earlier ++ item :: later ∧ later ≠ [] := by
  obtain ⟨earlier, later, split⟩ := List.mem_iff_append.mp member
  have filled : items ≠ [] := by
    rintro rfl
    cases member
  refine ⟨earlier, later ++ [items.getLast filled], ?_, by simp⟩
  rw [← List.cons_append, ← List.append_assoc, ← split, List.dropLast_append_getLast]

namespace World
variable {env : Env} {before after first last : World} {session : Nat} {clientId serverId : String} {input : Input}
  {inputs : List Input} {messages : List Response}

/-- What happens between the messages of an answer: the session stays ready, and the requests of
ready sessions are for other server ids. -/
structure Meanwhile (session : Nat) (serverId : String) (before : World) (input : Input) (after : World) : Prop where
  ready : ∃ client, after.session session = some client ∧ client.state = .ready
  others : ∀ other clock header request party, input = .read other clock header (.request request) →
    before.view.session other = some (.ready, party) → request.key.1 = .tradeRequestId →
    createRequestId party request.key.2 ≠ serverId

/-- A message of the answer is delivered under the client's own id, and the last report
frees both ids. -/
structure Delivers (session : Nat) (clientId serverId : String) (before : World) (input : Input) (after : World) :
    Prop where
  sent : ∀ value, input.concerning .tradeRequestId serverId = some value → ∃ msgSeqNum,
    after.controller.log =
      before.controller.log ++ [.toClient session msgSeqNum (.response (value.addressed .tradeRequestId clientId))]
  freed : ∀ report, input.concerning .tradeRequestId serverId = some (.tradeCaptureReport report) →
    report.lastRptRequested = true → after.Freed .tradeRequestId session clientId serverId

/-- No other session that has the server id ends while a message of the answer is to come. -/
def SharersStay (env : Env) (session : Nat) (serverId : String) (first : World) (inputs : List Input) : Prop :=
  ∀ earlier input later before, inputs = earlier ++ input :: later → Run (Step env) first earlier before →
    later.filterMap (Input.concerning .tradeRequestId serverId) ≠ [] → ∀ other own, other ≠ session →
    before.controller.findClient .tradeRequestId other own = some serverId → ¬ before.Loses other input

private theorem SharersStay.tail (stay : SharersStay env session serverId before (input :: inputs))
    (step : Step env before input after) : SharersStay env session serverId after inputs := by
  intro earlier next later middle split run
  exact stay (input :: earlier) next later middle (congrArg (input :: ·) split) (.cons step run)

private theorem SharersStay.alive (stay : SharersStay env session serverId before (input :: inputs))
    (step : Step env before input after) (reachable : Reachable env before)
    (meanwhile : Meanwhile session serverId before input after)
    (more : inputs.filterMap (Input.concerning .tradeRequestId serverId) ≠ []) :
    ∀ other own, before.controller.findClient .tradeRequestId other own = some serverId → after.Alive other := by
  intro other own key
  by_cases same : other = session
  · obtain ⟨client, held, ready⟩ := meanwhile.ready
    exact same ▸ ⟨client, held, by simp [ready]⟩
  · exact alive_of_key step reachable key (stay [] input inputs before rfl (.nil _) more other own same key)

private theorem meanwhile_keeps (step : Step env before input after) (consistent : before.view.Consistent)
    (meanwhile : Meanwhile session serverId before input after)
    (alive : ∀ other own, before.controller.findClient .tradeRequestId other own = some serverId → after.Alive other)
    {entry : Nat × String × Bool} (held : before.controller.findReqId .tradeRequestId serverId = some entry)
    (dropless : ∀ value, input.concerning .tradeRequestId serverId = some value →
      value.drops .tradeRequestId before.controller.totalNumPosReports entry.2.2 = false) :
    after.controller.findReqId .tradeRequestId serverId = some entry := by
  refine entry_survives step consistent held ?_ ?_ alive
  · intro drops
    cases input with
    | serverRead msgSeqNum message =>
      cases message with
      | response value =>
        obtain ⟨id, other, found, dropped⟩ := drops
        obtain rfl : other = entry := Option.some.inj (found.symm.trans held)
        have concerns : (Input.serverRead msgSeqNum (.response value)).concerning .tradeRequestId serverId = some value :=
          if_pos ⟨Response.mapping_of_drops (by decide) dropped, id.symm⟩
        rw [dropless value concerns] at dropped
        cases dropped
      | _ => exact drops
    | _ => exact drops
  · intro ends
    cases input with
    | read reader clock header message =>
      cases message with
      | request request =>
        obtain ⟨party, ready⟩ := ends.ready
        have own := consistent.indexed.stampedKey .tradeRequestId id reader request.key.2 serverId ends.key _ party ready
        exact meanwhile.others reader clock header request party rfl ready ends.named own.symm
      | _ => exact ends
    | _ => exact ends

private theorem foreign_step (step : Step env before input after) (consistent : before.view.Consistent)
    (meanwhile : Meanwhile session serverId before input after)
    (foreign : ∀ entry, before.controller.findReqId .tradeRequestId serverId = some entry → entry.1 ≠ session) :
    ∀ entry, after.controller.findReqId .tradeRequestId serverId = some entry → entry.1 ≠ session := by
  rintro ⟨owner, own, keepAlive⟩ found
  obtain ⟨flag, older⟩ | ⟨⟨clock, header, request, rfl, key, -⟩, party, ready, stamped⟩ := entry_step step consistent found
  · exact foreign (owner, own, flag) older
  · refine absurd ?_ (meanwhile.others owner clock header request party rfl ready (congrArg Prod.fst key))
    rw [congrArg Prod.snd key]
    exact (stamped id).symm

private theorem not_delivered {value : Response} (step : Step env before input after)
    (concerns : input.concerning .tradeRequestId serverId = some value)
    (foreign : ∀ entry, before.controller.findReqId .tradeRequestId serverId = some entry → entry.1 ≠ session) :
    ¬ Delivers session clientId serverId before input after := by
  intro delivers
  obtain ⟨number, log⟩ := delivers.sent value concerns
  obtain ⟨⟨msgSeqNum, rfl⟩, mapped, rfl⟩ := concerning_eq_some concerns
  obtain ⟨response, -, delivered⟩ := Controller.response_delivered env mapped { before.controller with
    serverSession := { before.controller.serverSession with inboundMsgSeqNum := msgSeqNum } }
  rw [← step.response] at delivered
  obtain silent | ⟨owner, own, keepAlive, client, sent, found, -, -, other⟩ := delivered
  · rw [log] at silent
    simp at silent
  · obtain ⟨rfl, -, -⟩ : session = owner ∧ _ := by simpa using List.append_cancel_left (log.symm.trans other)
    exact foreign _ found rfl

private theorem nothing_delivered
    (run : Run (fun before input after => Step env before input after ∧ Meanwhile session serverId before input after ∧
      Delivers session clientId serverId before input after) first inputs last)
    (consistent : first.view.Consistent)
    (foreign : ∀ entry, first.controller.findReqId .tradeRequestId serverId = some entry → entry.1 ≠ session) :
    inputs.filterMap (Input.concerning .tradeRequestId serverId) = [] := by
  induction run with
  | nil => rfl
  | @cons first middle last input rest head _ ih =>
    obtain ⟨step, meanwhile, delivers⟩ := head
    cases concerns : input.concerning .tradeRequestId serverId with
    | some value => exact absurd delivers (not_delivered step concerns foreign)
    | none =>
      rw [List.filterMap_cons_none concerns]
      exact ih (step.consistent consistent) (foreign_step step consistent meanwhile foreign)

/-- What is delivered in full is not cut short by the end of another session. -/
private theorem sharersStay_of_delivered
    (run : Run (fun before input after => Step env before input after ∧ Meanwhile session serverId before input after ∧
      Delivers session clientId serverId before input after) first inputs last)
    (reachable : Reachable env first) : SharersStay env session serverId first inputs := by
  rintro earlier input later before rfl start more other own - key loses
  obtain ⟨middle, head, tail⟩ := run.split
  have same : middle = before :=
    Run.unique (fun _ _ _ _ left right => left.unique right) (head.mono fun step => step.1) start
  subst same
  cases tail with
  | cons performed rest =>
    have reached : Reachable env middle :=
      start.preserves (Reachable env) (fun step reachable => reachable.step step) reachable
    refine more (nothing_delivered rest (consistent_of_reachable (reached.step performed.1)) fun entry found => ?_)
    cases (entry_gone performed.1 reached key loses).symm.trans found

/-- With its entry a session is delivered every message, up to the first that drops the entry. -/
private theorem all_delivered
    (run : Run (fun before input after => Step env before input after ∧ Meanwhile session serverId before input after)
      first inputs last)
    (reachable : Reachable env first) (ready : ∃ client, first.session session = some client ∧ client.state = .ready)
    (own : inputs.filterMap (Input.concerning .tradeRequestId serverId) = [] ∨
      first.controller.findReqId .tradeRequestId serverId = some (session, clientId, false) ∧
        SharersStay env session serverId first inputs)
    (dropless : ∀ value ∈ (inputs.filterMap (Input.concerning .tradeRequestId serverId)).dropLast, ∀ reports,
      value.drops .tradeRequestId reports false = false) :
    Run (fun before input after => Step env before input after ∧ Delivers session clientId serverId before input after)
      first inputs last := by
  induction run with
  | nil => exact .nil _
  | @cons first middle last input rest head _ ih =>
    obtain ⟨step, meanwhile⟩ := head
    have consistent := consistent_of_reachable reachable
    -- the entry is needed only while a message is to come
    have kept (held : first.controller.findReqId .tradeRequestId serverId = some (session, clientId, false))
        (stay : SharersStay env session serverId first (input :: rest))
        (drops : rest.filterMap (Input.concerning .tradeRequestId serverId) ≠ [] →
          ∀ value, input.concerning .tradeRequestId serverId = some value →
            value.drops .tradeRequestId first.controller.totalNumPosReports false = false) :
        rest.filterMap (Input.concerning .tradeRequestId serverId) = [] ∨
          middle.controller.findReqId .tradeRequestId serverId = some (session, clientId, false) ∧
            SharersStay env session serverId middle rest := by
      by_cases final : rest.filterMap (Input.concerning .tradeRequestId serverId) = []
      · exact Or.inl final
      · exact Or.inr ⟨meanwhile_keeps step consistent meanwhile (stay.alive step reachable meanwhile final) held
          (drops final), stay.tail step⟩
    cases concerns : input.concerning .tradeRequestId serverId with
    | none =>
      rw [List.filterMap_cons_none concerns] at own dropless
      refine .cons ⟨step, ⟨fun value same => by simp [concerns] at same, fun value same => by simp [concerns] at same⟩⟩
        (ih (reachable.step step) meanwhile.ready ?_ dropless)
      obtain none | ⟨held, stay⟩ := own
      · exact Or.inl none
      · exact kept held stay fun _ value same => by simp [concerns] at same
    | some value =>
      rw [List.filterMap_cons_some concerns] at own dropless
      obtain ⟨held, stay⟩ := own.resolve_left (List.cons_ne_nil _ _)
      obtain ⟨⟨msgSeqNum, rfl⟩, mapped, id⟩ := concerning_eq_some concerns
      obtain ⟨client, found, state⟩ := ready
      have delivers : Delivers session clientId serverId first (.serverRead msgSeqNum (.response value)) middle := by
        constructor
        · intro other same
          obtain rfl : value = other := Option.some.inj (concerns.symm.trans same)
          exact ⟨_, step.delivers mapped (id ▸ held) found state⟩
        · intro report same last
          obtain rfl : value = .tradeCaptureReport report := Option.some.inj (concerns.symm.trans same)
          have frees := step.frees (id ▸ entry_nonempty consistent held) (id ▸ held) (by simp [Response.drops, last])
          rw [id] at frees
          exact frees
      refine .cons ⟨step, delivers⟩ (ih (reachable.step step) meanwhile.ready ?_ ?_)
      · refine kept held stay fun final other same => ?_
        obtain rfl : value = other := Option.some.inj (concerns.symm.trans same)
        exact dropless value (by rw [List.dropLast_cons_of_ne_nil final]; exact List.mem_cons_self ..) _
      · intro other member
        refine dropless other ?_
        cases more : rest.filterMap (Input.concerning .tradeRequestId serverId) with
        | nil => simp [more] at member
        | cons next others =>
          rw [List.dropLast_cons_of_ne_nil (List.cons_ne_nil _ _), ← more]
          exact List.mem_cons_of_mem _ member

/-- After an ack nothing is delivered. -/
private theorem nothing_after_ack
    (run : Run (fun before input after => Step env before input after ∧ Meanwhile session serverId before input after ∧
      Delivers session clientId serverId before input after) first inputs last)
    (reachable : Reachable env first) (stay : SharersStay env session serverId first inputs)
    (held : first.controller.findReqId .tradeRequestId serverId = some (session, clientId, false))
    {value : TradeCaptureReportRequestAck}
    (acked : inputs.filterMap (Input.concerning .tradeRequestId serverId) = .tradeCaptureReportRequestAck value :: messages) :
    messages = [] := by
  induction run with
  | nil => cases acked
  | @cons first middle last input rest head tail ih =>
    obtain ⟨step, meanwhile, -⟩ := head
    have consistent := consistent_of_reachable reachable
    cases concerns : input.concerning .tradeRequestId serverId with
    | none =>
      rw [List.filterMap_cons_none concerns] at acked
      have alive := stay.alive step reachable meanwhile (by rw [acked]; exact List.cons_ne_nil _ _)
      exact ih (reachable.step step) (stay.tail step)
        (meanwhile_keeps step consistent meanwhile alive held fun value same => by simp [concerns] at same) acked
    | some other =>
      rw [List.filterMap_cons_some concerns] at acked
      obtain ⟨rfl, rfl⟩ := List.cons.inj acked
      obtain ⟨⟨msgSeqNum, rfl⟩, -, id⟩ := concerning_eq_some concerns
      have frees := step.frees (id ▸ entry_nonempty consistent held) (id ▸ held) (by simp [Response.drops])
      refine nothing_delivered tail (step.consistent consistent) fun entry found => ?_
      rw [← id, frees.2] at found
      cases found

private theorem dropless_of_answer {ack : Option TradeCaptureReportRequestAck} {reports : List TradeCaptureReport}
    (answer : TradeAnswer serverId ack reports) (either : ack = none ∨ reports = []) :
    ∀ value ∈ (tradeMessages ack reports).dropLast, ∀ counted, value.drops .tradeRequestId counted false = false := by
  intro value member counted
  rcases either with rfl | rfl
  · simp only [tradeMessages, Option.map_none, Option.toList_none, List.nil_append, ← List.map_dropLast, List.mem_map]
      at member
    obtain ⟨report, member, rfl⟩ := member
    obtain ⟨earlier, later, split, more⟩ := split_of_mem_dropLast member
    have notLast : report.lastRptRequested = false := by
      cases last : report.lastRptRequested with
      | false => rfl
      | true => exact absurd ((answer.last earlier report later split).mp last) more
    simp [Response.drops, notLast]
  · cases ack <;> simp [tradeMessages] at member

/-- The messages of an answer to a snapshot request for trades are all delivered under the
client's own id, exactly if the answer has no ack or no reports, no other session had the
server id of the request, and none that has it ends before the last message. -/
theorem trades_delivered_iff {client : Client.Session} {clock : Clock} {header : Header} {request : Request}
    (reachable : Reachable env before) (held : before.session session = some client) (ready : client.state = .ready)
    (typed : request.subscriptionType = some .snapshot)
    (asked : Step env before (.read session clock header (.request request)) first)
    (forwarded : Forwarded request .tradeRequestId clientId serverId before.controller.log first.controller.log)
    {ack : Option TradeCaptureReportRequestAck} {reports : List TradeCaptureReport}
    (answer : TradeAnswer serverId ack reports)
    (interleaved : inputs.filterMap (Input.concerning .tradeRequestId serverId) = tradeMessages ack reports)
    (run : Run (fun before input after => Step env before input after ∧ Meanwhile session serverId before input after)
      first inputs last) :
    Run (fun before input after => Step env before input after ∧ Delivers session clientId serverId before input after)
        first inputs last ↔
      (ack = none ∧ reports = []) ∨
        (before.controller.findReqId .tradeRequestId serverId = none ∧ (ack = none ∨ reports = []) ∧
          SharersStay env session serverId first inputs) := by
  have consistent := consistent_of_reachable reachable
  have opens := asked.opens consistent held ready forwarded (by rw [typed]; decide)
  have flag : request.keepAlive = false := by simp [Request.keepAlive, typed]
  have entry : first.controller.findReqId .tradeRequestId serverId =
      some ((before.controller.findReqId .tradeRequestId serverId).getD (session, clientId, false)) := by
    rw [← flag]
    exact opens.entry
  have still : ∃ client, first.session session = some client ∧ client.state = .ready := by
    obtain ⟨party, state⟩ := ready_iff.mp ⟨client, held, ready⟩
    exact ready_iff.mpr ⟨party, by rw [opens.sessions]; exact state⟩
  constructor
  · intro delivered
    have both : Run (fun before input after => Step env before input after ∧
        Meanwhile session serverId before input after ∧ Delivers session clientId serverId before input after)
        first inputs last :=
      (run.inter (fun step step' => step.1.unique step'.1) delivered).mono
        fun both => ⟨both.1.1, both.1.2, both.2.2⟩
    by_cases empty : tradeMessages ack reports = []
    · refine Or.inl ?_
      cases ack with
      | none => simpa [tradeMessages] using empty
      | some value => simp [tradeMessages] at empty
    · have free : before.controller.findReqId .tradeRequestId serverId = none := by
        by_contra taken
        obtain ⟨older, found⟩ := Option.ne_none_iff_exists'.mp taken
        rw [found] at entry
        refine empty (interleaved ▸ nothing_delivered both (asked.consistent consistent) fun other same => ?_)
        obtain rfl : older = other := Option.some.inj (entry.symm.trans same)
        exact opens.foreign consistent (by decide) found
      have stay := sharersStay_of_delivered both (reachable.step asked)
      refine Or.inr ⟨free, ?_, stay⟩
      cases ack with
      | none => exact Or.inl rfl
      | some value =>
        rw [free] at entry
        have none := nothing_after_ack both (reachable.step asked) stay entry interleaved
        exact Or.inr (by simpa using none)
  · intro condition
    refine all_delivered run (reachable.step asked) still ?_ ?_
    · rcases condition with ⟨rfl, rfl⟩ | ⟨free, -, stay⟩
      · exact Or.inl interleaved
      · rw [free] at entry
        exact Or.inr ⟨entry, stay⟩
    · rw [interleaved]
      refine dropless_of_answer answer ?_
      rcases condition with ⟨none, -⟩ | ⟨-, either, -⟩
      · exact Or.inl none
      · exact either

def asksTrades : Input := Deployment.asks 1 (Deployment.trades "AAAA" .snapshot)

def lastTrade : TradeCaptureReport where
  tradeRequestId := "proxy-1:AAAA"
  lastRptRequested := true

private theorem answer_lastTrade {ack : Option TradeCaptureReportRequestAck}
    (accepts : ∀ value ∈ ack, value.tradeRequestId = "proxy-1:AAAA" ∧ value.tradeRequestStatus ≠ .rejected) :
    TradeAnswer "proxy-1:AAAA" ack [lastTrade] := by
  refine ⟨accepts, fun value member => ?_, fun earlier value later split => ?_⟩
  · rw [List.mem_singleton.mp member]
    rfl
  · cases earlier with
    | nil =>
      obtain ⟨rfl, rfl⟩ := List.cons.inj split
      exact iff_of_true rfl rfl
    | cons head tail => simp at split

theorem trades_delivered_iff_loggedOn : ∃ world first last,
    RunsUnder Regular Deployment.env Deployment.users 0 Deployment.loggedOn world ∧
      Step Deployment.env world asksTrades first ∧
      Delivers 1 "AAAA" "proxy-1:AAAA" first (Deployment.replies (.tradeCaptureReport lastTrade)) last := by
  obtain ⟨world, first, last, runs, asked, run, checked⟩ := exists_runs_of_replay Regular Deployment.env Deployment.users
    0 Deployment.loggedOn asksTrades [Deployment.replies (.tradeCaptureReport lastTrade)]
    (fun world first last => ((world.session 1).any fun client => client.state == .ready) &&
      first.controller.log == world.controller.log ++
        [.toServer 3 (.request ((Deployment.trades "proxy-1:AAAA" .snapshot).stamped
          (Client.ownParties { logonTimeout := 0, partyId := "1" })))] &&
      world.controller.findReqId .tradeRequestId "proxy-1:AAAA" == none &&
      (last.session 1).any fun client => client.state == .ready) (by decide +kernel)
  simp only [Bool.and_eq_true, beq_iff_eq, Option.any_eq_true] at checked
  obtain ⟨⟨⟨⟨client, held, ready⟩, log⟩, free⟩, still, heldStill, readyStill⟩ := checked
  cases run with
  | cons head rest =>
    cases rest
    have reachable := reachable_of_runsUnder runs
    have meanwhile : Meanwhile 1 "proxy-1:AAAA" first (Deployment.replies (.tradeCaptureReport lastTrade)) last := by
      refine ⟨⟨still, heldStill, readyStill⟩, fun other clock header request party same => ?_⟩
      cases same
    have stay : SharersStay Deployment.env 1 "proxy-1:AAAA" first [Deployment.replies (.tradeCaptureReport lastTrade)] := by
      intro earlier input later before split run more
      obtain rfl : later = [] := by cases earlier <;> simp_all
      exact absurd rfl more
    have answer : TradeAnswer "proxy-1:AAAA" none [lastTrade] := answer_lastTrade fun value none => nomatch none
    have delivered := (trades_delivered_iff reachable held ready rfl asked ⟨rfl, 3, _, rfl, log⟩ answer rfl
      (.single ⟨head.2, meanwhile⟩)).mpr (Or.inr ⟨free, Or.inl rfl, stay⟩)
    cases delivered with
    | cons delivers rest =>
      cases rest
      exact ⟨world, first, last, runs, asked, delivers.2⟩

/-- An accepting ack releases the id, and the reports after it are dropped. -/
theorem trades_dropped : ∃ world acked last,
    RunsUnder Regular Deployment.env Deployment.users 0 (Deployment.loggedOn ++ [asksTrades]) world ∧
      world.controller.findReqId .tradeRequestId "proxy-1:AAAA" = some (1, "AAAA", false) ∧
      TradeAnswer "proxy-1:AAAA" (some (Deployment.tradesAck "proxy-1:AAAA")) [lastTrade] ∧
      Step Deployment.env world (Deployment.replies (.tradeCaptureReportRequestAck (Deployment.tradesAck "proxy-1:AAAA")))
        acked ∧
      acked.controller.findReqId .tradeRequestId "proxy-1:AAAA" = none ∧
      Step Deployment.env acked (Deployment.replies (.tradeCaptureReport lastTrade)) last ∧
      last.controller.log = acked.controller.log ∧
      ∃ client, last.session 1 = some client ∧ client.state = .ready := by
  obtain ⟨world, acked, last, runs, ack, run, checked⟩ := exists_runs_of_replay Regular Deployment.env Deployment.users
    0 (Deployment.loggedOn ++ [asksTrades])
    (Deployment.replies (.tradeCaptureReportRequestAck (Deployment.tradesAck "proxy-1:AAAA")))
    [Deployment.replies (.tradeCaptureReport lastTrade)]
    (fun world acked last => world.controller.findReqId .tradeRequestId "proxy-1:AAAA" == some (1, "AAAA", false) &&
      acked.controller.findReqId .tradeRequestId "proxy-1:AAAA" == none && last.controller.log == acked.controller.log &&
      (last.session 1).any fun client => client.state == .ready) (by decide +kernel)
  simp only [Bool.and_eq_true, beq_iff_eq, Option.any_eq_true] at checked
  obtain ⟨⟨⟨entry, gone⟩, silent⟩, client, held, ready⟩ := checked
  cases run with
  | cons head rest =>
    cases rest
    refine ⟨world, acked, last, runs, entry, answer_lastTrade fun value same => ?_, ack, gone, head.2, silent, client,
      held, ready⟩
    obtain rfl := Option.some.inj same
    exact ⟨rfl, by decide⟩

end World
end FixProxy
