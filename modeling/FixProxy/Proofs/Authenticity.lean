import FixProxy.Deployment
import FixProxy.Proofs.Delivery

/-! Where a delivered response comes from. Every entry of a mapping goes back to a
request that its session sent and that was forwarded under the id of the entry. -/

namespace FixProxy
open Codec

namespace Router

def Makes (router : Router) (name : MappingName) (session : Nat) (clientId serverId : String) : Action → Prop
  | .openFresh opened other own _ => opened = name ∧ other = session ∧ own = clientId ∧ serverId = router.nextId
  | .openStamped opened other party own _ =>
    opened = name ∧ other = session ∧ own = clientId ∧ serverId = createRequestId party own
  | .enter other party =>
    name = .ordStatusReqId ∧ other = session ∧ clientId = "" ∧ serverId = createRequestId party ""
  | _ => False

theorem made_step {before after : Router} {action : Action} (step : Step before action after) {name : MappingName}
    {session : Nat} {clientId serverId : String} {keepAlive : Bool}
    (entry : (after.index name).entry serverId = some (session, clientId, keepAlive)) :
    (∃ keepAlive, (before.index name).entry serverId = some (session, clientId, keepAlive)) ∨
      before.Makes name session clientId serverId action := by
  -- a change of one index concerns its own name only
  have changed {opened : MappingName} {index : Index Nat String String Bool} {makes : Prop}
      (entry : (Function.update before.index opened index name).entry serverId = some (session, clientId, keepAlive))
      (own : name = opened → index.entry serverId = some (session, clientId, keepAlive) →
        (∃ keepAlive, (before.index name).entry serverId = some (session, clientId, keepAlive)) ∨ makes) :
      (∃ keepAlive, (before.index name).entry serverId = some (session, clientId, keepAlive)) ∨ makes := by
    by_cases same : name = opened
    · subst opened
      exact own rfl (by simpa using entry)
    · exact Or.inl ⟨keepAlive, by simpa [same] using entry⟩
  cases step with
  | touch =>
    refine changed entry fun same entry => ?_
    subst same
    exact Or.inl ⟨keepAlive, entry⟩
  | openFresh ready fresh free =>
    refine changed entry fun same entry => ?_
    subst same
    obtain older | ⟨-, rfl, rfl, rfl⟩ := Index.entry_of_enter entry
    · exact Or.inl ⟨keepAlive, older⟩
    · exact Or.inr ⟨rfl, rfl, rfl, rfl⟩
  | openStamped ready stamped free nonempty =>
    refine changed entry fun same entry => ?_
    subst same
    obtain older | ⟨-, rfl, rfl, rfl⟩ := Index.entry_of_enter entry
    · exact Or.inl ⟨keepAlive, older⟩
    · exact Or.inr ⟨rfl, rfl, rfl, rfl⟩
  | enter ready =>
    refine changed entry fun same entry => ?_
    subst same
    obtain older | ⟨-, rfl, rfl, rfl⟩ := Index.entry_of_enter entry
    · exact Or.inl ⟨keepAlive, older⟩
    · exact Or.inr ⟨rfl, rfl, rfl, rfl⟩
  | release =>
    exact changed entry fun same entry => Or.inl ⟨keepAlive, same ▸ (Index.entry_of_release entry).1⟩
  | retain =>
    exact changed entry fun same entry => Or.inl (same ▸ Index.entry_of_retain entry)
  | retire => exact Or.inl ⟨keepAlive, (Index.entry_of_clear entry).1⟩
  | retireAsking => exact Or.inl ⟨keepAlive, (Index.entry_of_clear entry).1⟩
  | _ => exact Or.inl ⟨keepAlive, entry⟩

end Router

namespace World
variable {env : Env} {users : Map String (String × Nat)} {realtime : Nat} {inputs : List Input} {world : World}

/-- A session sent a request with its own id, and the proxy forwarded it under the server
id, in one event of the run. Something has held since. -/
def Requested (since : World → Prop) (env : Env) (users : Map String (String × Nat)) (realtime : Nat)
    (inputs : List Input) (world : World) (name : MappingName) (session : Nat) (clientId serverId : String) : Prop :=
  ∃ earlier clock header request later before after,
    inputs = earlier ++ .read session clock header (.request request) :: later ∧
    Runs env users realtime earlier before ∧
    Step env before (.read session clock header (.request request)) after ∧
    Forwarded request name clientId serverId before.controller.log after.controller.log ∧
    since after ∧ Run (fun before input after => Step env before input after ∧ since after) after later world

/-- A session that is ready has a request forwarded under a server id. -/
structure Asks (before : World) (name : MappingName) (session : Nat) (clientId serverId : String) (input : Input)
    (after : World) : Prop where
  forwarded : ∃ clock header request, input = .read session clock header (.request request) ∧
    Forwarded request name clientId serverId before.controller.log after.controller.log
  stamped : ∃ party, before.view.session session = some (.ready, party) ∧
    (¬ name.Fresh → serverId = createRequestId party clientId)

theorem asks_of_makes {before after : World} {input : Input} {router next : Router} {action : Action}
    (caused : Caused before input after router action) (moved : Router.Step router action next) {name : MappingName}
    {session : Nat} {clientId serverId : String} (makes : router.Makes name session clientId serverId action) :
    Asks before name session clientId serverId input after := by
  cases moved with
  | openFresh ready fresh =>
    obtain ⟨reader, clock, header, request, rfl, rfl, sessions, -, forwarded⟩ := caused_opens caused trivial
    obtain ⟨rfl, rfl, rfl, rfl⟩ := makes
    exact ⟨⟨clock, header, request, rfl, forwarded⟩, _, sessions ▸ ready, fun stamped => absurd fresh stamped⟩
  | openStamped ready =>
    obtain ⟨reader, clock, header, request, rfl, rfl, sessions, -, forwarded⟩ := caused_opens caused trivial
    obtain ⟨rfl, rfl, rfl, rfl⟩ := makes
    exact ⟨⟨clock, header, request, rfl, forwarded⟩, _, sessions ▸ ready, fun _ => rfl⟩
  | enter ready =>
    obtain ⟨reader, clock, header, request, rfl, rfl, sessions, -, forwarded⟩ := caused_opens caused trivial
    obtain ⟨rfl, rfl, rfl, rfl⟩ := makes
    exact ⟨⟨clock, header, request, rfl, forwarded⟩, _, sessions ▸ ready, fun _ => rfl⟩
  | _ => exact makes.elim

/-- An entry after an event was there before it, or the event is a request of its session
that is forwarded under the id of the entry. -/
theorem entry_step {before after : World} {input : Input} (step : Step env before input after)
    (consistent : before.view.Consistent) {name : MappingName} {session : Nat} {clientId serverId : String}
    {keepAlive : Bool} (entry : (after.view.index name).entry serverId = some (session, clientId, keepAlive)) :
    (∃ keepAlive, (before.view.index name).entry serverId = some (session, clientId, keepAlive)) ∨
      Asks before name session clientId serverId input after := by
  refine (step.moves consistent).preserves
    (fun router => ∀ keepAlive, (router.index name).entry serverId = some (session, clientId, keepAlive) →
      (∃ keepAlive, (before.view.index name).entry serverId = some (session, clientId, keepAlive)) ∨
        Asks before name session clientId serverId input after)
    ?_ (fun keepAlive entry => Or.inl ⟨keepAlive, entry⟩) keepAlive entry
  intro router action next caused moved earlier keepAlive entry
  obtain ⟨older, entry⟩ | makes := Router.made_step moved entry
  · exact earlier older entry
  · exact Or.inr (asks_of_makes caused moved makes)

theorem entry_requested (runs : Runs env users realtime inputs world) {name : MappingName} {session : Nat}
    {clientId serverId : String} {keepAlive : Bool}
    (entry : (world.view.index name).entry serverId = some (session, clientId, keepAlive)) :
    Requested (fun _ => True) env users realtime inputs world name session clientId serverId := by
  have requested := runs.history (fun inputs world => ∀ keepAlive,
    (world.view.index name).entry serverId = some (session, clientId, keepAlive) →
      Requested (fun _ => True) env users realtime inputs world name session clientId serverId)
    (fun keepAlive entry => by cases entry)
    (fun {earlier input before after} run step requested keepAlive entry => by
      have consistent := consistent_of_reachable ⟨users, realtime, earlier, run⟩
      obtain ⟨keepAlive, older⟩ | ⟨⟨clock, header, request, rfl, forwarded⟩, -⟩ := entry_step step consistent entry
      · obtain ⟨first, clock, header, request, later, start, asked, rfl, reached, read, forwarded, -, rest⟩ :=
          requested keepAlive older
        exact ⟨first, clock, header, request, later ++ [input], start, asked, by simp, reached, read, forwarded,
          trivial, rest.snoc ⟨step, trivial⟩⟩
      · exact ⟨earlier, clock, header, request, [], before, after, rfl, run, step, forwarded, trivial, .nil _⟩)
  exact requested keepAlive entry

theorem alive_since {first last : World} {session : Nat} (run : Run (Step env) first inputs last)
    (consistent : first.view.Consistent) (known : session ≤ first.view.lastSession) (alive : last.Alive session) :
    first.Alive session ∧
      Run (fun before input after => Step env before input after ∧ after.Alive session) first inputs last := by
  have still {before after : World} {input : Input} (step : Step env before input after)
      (consistent : before.view.Consistent) (known : session ≤ before.view.lastSession) :
      session ≤ after.view.lastSession ∧ (Client.Dead before.view session → Client.Dead after.view session) :=
    (step.moves consistent).preserves
      (fun router => session ≤ router.lastSession ∧ (Client.Dead before.view session → Client.Dead router session))
      (fun _ _ _ _ step ⟨known, dead⟩ =>
        ⟨Client.known_step step known, fun finished => Client.dead_step step known (dead finished)⟩)
      ⟨known, id⟩
  exact run.back (fun world => world.view.Consistent ∧ session ≤ world.view.lastSession) (·.Alive session)
    (fun step ⟨consistent, known⟩ => ⟨step.consistent consistent, (still step consistent known).1⟩)
    (fun step ⟨consistent, known⟩ alive => not_dead_iff.mp fun dead =>
      not_dead_iff.mpr alive ((still step consistent known).2 dead)) ⟨consistent, known⟩ alive

private theorem known_of_forwarded {before after : World} {session : Nat} {clock : Clock} {header : Header}
    {request : Request} {name : MappingName} {clientId serverId : String} (consistent : before.view.Consistent)
    (step : Step env before (.read session clock header (.request request)) after)
    (forwarded : Forwarded request name clientId serverId before.controller.log after.controller.log) :
    session ≤ before.view.lastSession := by
  refine consistent.sound.known session fun absent => ?_
  have gone : before.controller.sessions.find session = none := view_session_none.mp absent
  have performed := step.performed
  simp only [FixProxy.step, Client.read, Client.withSession, gone, Outcome.done.injEq] at performed
  obtain ⟨-, msgSeqNum, sent, -, log⟩ := forwarded
  rw [← performed] at log
  simp at log

/-- A response that goes through a mapping reaches at most one session, one that is
ready. It carries the id under which that session itself sent a request of the same
family, which was forwarded under the server id of the response; the session has not
ended since. -/
theorem response_authentic (runs : Runs env users realtime inputs world) {name : MappingName} {value : Response}
    (mapped : value.mapping = some name) {msgSeqNum : Nat} {after : World}
    (step : Step env world (.serverRead msgSeqNum (.response value)) after) :
    after.controller.log = world.controller.log ∨
      ∃ session number response,
        after.controller.log = world.controller.log ++ [.toClient session number (.response response)] ∧
        (∃ client, world.session session = some client ∧ client.state = .ready) ∧
        Requested (·.Alive session) env users realtime inputs world name session (response.id name) (value.id name) := by
  have performed := step.performed
  rw [FixProxy.step, Server.read, Server.parse, Outcome.done.injEq] at performed
  obtain ⟨response, carries, delivered⟩ := Controller.response_delivered env mapped
    { world.controller with serverSession := { world.controller.serverSession with inboundMsgSeqNum := msgSeqNum } }
  rw [performed] at delivered
  obtain silent | ⟨session, clientId, keepAlive, client, number, found, held, ready, log⟩ := delivered
  · exact Or.inl silent
  · have entry : (world.view.index name).entry (value.id name) = some (session, clientId, keepAlive) := found
    have consistent := consistent_of_reachable ⟨users, realtime, inputs, runs⟩
    have id : (response clientId).id name = clientId := by
      obtain own | ⟨rfl, stamped⟩ := carries clientId
      · exact own
      · obtain ⟨party, plain, made⟩ :=
          consistent.indexed.stampedEntry .clOrdId (fun fresh => fresh) _ session clientId keepAlive entry
        rw [stamped, made, getClientClOrdId_createRequestId plain]
    refine Or.inr ⟨session, number, response clientId, log, ⟨client, held, ready⟩, ?_⟩
    rw [id]
    obtain ⟨earlier, clock, header, request, later, start, asked, split, reached, read, forwarded, -, rest⟩ :=
      entry_requested runs entry
    have before := consistent_of_reachable ⟨users, realtime, earlier, reached⟩
    have known : session ≤ asked.view.lastSession :=
      (read.moves before).preserves (session ≤ ·.lastSession) (fun _ _ _ _ step known => Client.known_step step known)
        (known_of_forwarded before read forwarded)
    have alive : world.Alive session := ⟨client, held, by rw [ready]; decide⟩
    obtain ⟨since, run⟩ := alive_since (rest.mono fun performed => performed.1) (read.consistent before) known alive
    exact ⟨earlier, clock, header, request, later, start, asked, split, reached, read, forwarded, since, run⟩

theorem response_authentic_subscribed : ∃ world after, Runs Deployment.env Deployment.users 0 Deployment.subscribed world ∧
    Step Deployment.env world
      (Deployment.replies (.marketDataIncrementalRefresh { mdReqId := "proxy-2" })) after ∧
    Requested (·.Alive 1) Deployment.env Deployment.users 0 Deployment.subscribed world .mdReqId 1 "AAAA" "proxy-2" := by
  obtain ⟨world, after, runs, -, step, checked⟩ := exists_step_of_replay Regular Deployment.env Deployment.users 0
    Deployment.subscribed (Deployment.replies (.marketDataIncrementalRefresh { mdReqId := "proxy-2" }))
    (fun world after => after.controller.log == world.controller.log ++
      [.toClient 1 2 (.response (.marketDataIncrementalRefresh { mdReqId := "AAAA" }))]) (by decide +kernel)
  have log : after.controller.log = world.controller.log ++
      [.toClient 1 2 (.response (.marketDataIncrementalRefresh { mdReqId := "AAAA" }))] := by simpa using checked
  have runs := runs_of_runsUnder runs
  refine ⟨world, after, runs, step, ?_⟩
  obtain silent | ⟨session, number, response, sent, -, requested⟩ := response_authentic runs rfl step
  · rw [log] at silent
    simp at silent
  · rw [log] at sent
    obtain ⟨rfl, -, rfl⟩ : 1 = session ∧ 2 = number ∧
        Response.marketDataIncrementalRefresh { mdReqId := "AAAA" } = response := by
      simpa using List.append_cancel_left sent
    exact requested

end World
end FixProxy
