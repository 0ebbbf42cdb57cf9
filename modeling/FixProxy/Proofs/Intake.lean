import Mathlib.Data.List.Forall2
import FixProxy.Proofs.Gate
import FixProxy.Proofs.Outcomes

/-! What upstream is asked, against what the clients ask. Requests go upstream in the order in
which they came, each at most once, and nothing of them changes but the id and the party. -/

namespace FixProxy
open Codec

/-- The request ends a market data subscription. The proxy sends such requests too, for a
session that goes. -/
def Codec.Request.parts : Request → Bool
  | .marketDataRequest value => value.subscriptionRequestType == .unsubscribe
  | _ => false

private theorem Codec.Request.parts_of_parting {request : Request} (parting : (ToServer.request request).Parting) :
    request.parts = true := by
  cases request with
  | marketDataRequest value => exact beq_iff_eq.mpr parting
  | _ => exact parting.elim

private theorem Codec.Request.parts_renamed (request : Request) (parties : List Party) (party serverId : String) :
    ((request.stamped parties).renamed party serverId).parts = request.parts := by
  cases request <;> rfl

def Output.sent : Output → Option Request
  | .toServer _ (.request request) => if request.parts then none else some request
  | _ => none

def Input.asks : Input → Option (Nat × Request)
  | .read session _ _ (.request request) => if request.parts then none else some (session, request)
  | _ => none

def partiesOf (party : String) : List Party :=
  [{ partyId := party, partyIdSource := .proprietaryCustomCode, partyRole := .clientId }]

/-- A request as it goes upstream for a party. -/
def Codec.Request.SentAs (party : String) (request sent : Request) : Prop :=
  ∃ serverId, sent = (request.stamped (partiesOf party)).renamed party serverId

namespace World
variable {env : Env} {users : Map String (String × Nat)} {realtime : Nat} {before after world : World} {input : Input}
  {inputs : List Input} {session : Nat} {client : Client.Session}

/-- The requests that have gone upstream, oldest first. -/
def sent (world : World) : List Request := world.controller.log.filterMap Output.sent

private theorem sent_append {outputs : List Output} (log : after.controller.log = before.controller.log ++ outputs) :
    after.sent = before.sent ++ outputs.filterMap Output.sent := by
  rw [sent, log, List.filterMap_append, sent]

private theorem sent_otherwise (step : Step env before input after) (reachable : Reachable env before)
    (unasked : ∀ session client clock header request, input = .read session clock header (.request request) →
      before.session session = some client → client.state ≠ .ready) : after.sent = before.sent := by
  obtain ⟨outputs, log, kinds⟩ := step.adds reachable
  have none : outputs.filterMap Output.sent = [] := by
    rw [List.filterMap_eq_nil_iff]
    intro output member
    cases output with
    | toServer msgSeqNum message =>
      cases message with
      | request request =>
        refine if_pos ?_
        rcases kinds _ _ member with own | ⟨session, client, deed, held, scene, sends, -⟩
        · exact own.elim
        · cases sends with
          | pass =>
            cases scene with
            | ends ends => exact ends.elim
            | pass ready read => exact absurd ready (unasked _ _ _ _ _ read held)
          | part ends parting => exact Request.parts_of_parting parting
      | _ => rfl
    | _ => rfl
  rw [sent_append log, none, List.append_nil]

private theorem sent_step (step : Step env before input after) (reachable : Reachable env before) :
    after.sent = before.sent ∨ ∃ session request client sent, input.asks = some (session, request) ∧
      before.session session = some client ∧ client.state = .ready ∧ request.SentAs client.partyId sent ∧
      after.sent = before.sent ++ [sent] := by
  by_cases asked : ∃ session client clock header request, input = .read session clock header (.request request) ∧
      before.session session = some client ∧ client.state = .ready
  · obtain ⟨session, client, clock, header, request, rfl, held, ready⟩ := asked
    rcases step.disposes (consistent_of_reachable reachable) held ready with forwards | ⟨⟨number, reply, -, told⟩, -⟩
    · obtain ⟨_, same, number, serverId, log⟩ := forwards
      cases same
      by_cases parts : request.parts = true
      · refine Or.inl ?_
        rw [sent_append log]
        simp [Output.sent, Request.parts_renamed, parts]
      · refine Or.inr ⟨session, request, client, _, if_neg parts, held, ready, ⟨serverId, rfl⟩, ?_⟩
        rw [sent_append log]
        simp [Output.sent, Request.parts_renamed, parts, Client.ownParties, partiesOf]
    · refine Or.inl ?_
      rw [sent_append told]
      simp [Output.sent]
  · refine Or.inl (sent_otherwise step reachable fun session client clock header request read held ready => asked ?_)
    exact ⟨session, client, clock, header, request, read, held, ready⟩

/-- What goes upstream in an event as a business request: the request that a ready session makes
in it, as the only message; or the end of a market data subscription of a session that ends. -/
def Sourced (before : World) (input : Input) (after : World) : Prop :=
  ∀ msgSeqNum request, .toServer msgSeqNum (.request request) ∈ after.controller.log.drop before.controller.log.length →
    (∃ session client clock header asked, input = .read session clock header (.request asked) ∧
      before.session session = some client ∧ client.state = .ready ∧ asked.SentAs client.partyId request ∧
      after.controller.log = before.controller.log ++ [.toServer msgSeqNum (.request request)]) ∨
    request.parts = true ∧ ∃ session, before.Alive session ∧ ¬ after.Alive session

private theorem sourced_step (step : Step env before input after) (reachable : Reachable env before) :
    before.Sourced input after := by
  intro msgSeqNum request member
  obtain ⟨outputs, log, kinds⟩ := step.adds reachable
  have log : after.controller.log = before.controller.log ++ outputs := log
  rw [log, List.drop_left] at member
  rcases kinds _ _ member with own | ⟨session, client, deed, held, scene, sends, ended⟩
  · exact own.elim
  · cases sends with
    | part ends parting =>
      refine Or.inr ⟨Request.parts_of_parting parting, session, ⟨client, held, fun zombie => ?_⟩, ended ends⟩
      exact (scene.rest_of_zombie held zombie ▸ ends : Deed.Ends .rest)
    | pass =>
      cases scene with
      | ends ends => exact ends.elim
      | @pass clock header asked _ ready read =>
        refine Or.inl ⟨session, client, clock, header, asked, read, held, ready, ?_⟩
        subst read
        rcases step.disposes (consistent_of_reachable reachable) held ready with forwards | ⟨⟨number, reply, -, told⟩, -⟩
        · obtain ⟨_, same, number, serverId, forwarded⟩ := forwards
          cases same
          obtain rfl := List.append_cancel_left (log.symm.trans forwarded)
          cases List.mem_singleton.mp member
          exact ⟨⟨serverId, rfl⟩, log⟩
        · obtain rfl := List.append_cancel_left (log.symm.trans told)
          cases List.mem_singleton.mp member

/-- A session is known and has left its logon behind, or is no longer held. -/
def Departed (world : World) (session : Nat) : Prop :=
  session ≤ world.roster.lastSession ∧ ∀ client, world.session session = some client → client.state ≠ .waitingLogon

private theorem departed_step (step : Step env before input after) (reachable : Reachable env before)
    (departed : before.Departed session) : after.Departed session ∧ ∀ last, after.session session = some last →
      last.state.Active → ∃ client, before.session session = some client ∧ client.state.Active ∧
        last.partyId = client.partyId := by
  obtain ⟨known, past⟩ := departed
  obtain ⟨plays, registered⟩ := step.round reachable
  have later : session ≤ after.roster.lastSession := Nat.le_trans known plays.lastSession
  cases held : before.session session with
  | none =>
    have gone : after.session session = none := by
      rcases (plays.absent registered held).record with gone | ⟨fresh, -⟩
      · exact gone
      · omega
    exact ⟨⟨later, by simp [gone]⟩, by simp [gone]⟩
  | some client =>
    obtain ⟨deed, last, allowed, fate⟩ := plays.fate registered held
    have scene := scene_of_allows held allowed
    have left := past client held
    have state : last.state ≠ .waitingLogon := fate.state ▸ Deed.leads_ne_waitingLogon left
    have found other (heldAfter : after.session session = some other) : other = last := by
      have heldAfter : after.roster.session session = some other := heldAfter
      rcases fate.kept with kept | ⟨-, gone⟩
      · exact Option.some.inj (heldAfter.symm.trans kept)
      · cases heldAfter.symm.trans gone
    refine ⟨⟨later, fun other heldAfter => found other heldAfter ▸ state⟩, fun other heldAfter active => ?_⟩
    obtain rfl := found other heldAfter
    have alive := (Client.State.active_iff.mp active).2
    have active : client.state.Active := by
      refine Client.State.active_iff.mpr ⟨left, fun zombie => alive ?_⟩
      obtain rfl := scene.rest_of_zombie held zombie
      exact fate.state.trans zombie
    exact ⟨client, rfl, active, (who_of_fate scene fate held active alive).2.2⟩

/-- The requests that were sent on, so far: some of those that were made, in their order, each
under the party of its session. -/
structure Taken (party : Nat → String) (accepted : List (Nat × Request)) (inputs : List Input) (world : World) : Prop where
  order : accepted.Sublist (inputs.filterMap Input.asks)
  sent : List.Forall₂ (fun asked sent => asked.2.SentAs (party asked.1) sent) accepted world.sent
  departed : ∀ asked ∈ accepted, world.Departed asked.1
  settled : ∀ session client, world.session session = some client → client.state.Active → client.partyId = party session

/-- The parties of the sessions, with those of the sessions that have just logged on. -/
def parties (party : Nat → String) (world : World) (session : Nat) : String :=
  match world.session session with
  | some client => if client.state.Active then client.partyId else party session
  | none => party session

private theorem parties_of_departed {party : Nat → String} (step : Step env before input after)
    (reachable : Reachable env before) (departed : before.Departed session)
    (settled : ∀ session client, before.session session = some client → client.state.Active →
      client.partyId = party session) : parties party after session = party session := by
  unfold parties
  split
  · next last held =>
    split
    · next active =>
      obtain ⟨client, was, activeBefore, same⟩ := (departed_step step reachable departed).2 last held active
      exact same.trans (settled session client was activeBefore)
    · rfl
  · rfl

private theorem taken_step {party : Nat → String} {accepted : List (Nat × Request)} (step : Step env before input after)
    (reachable : Reachable env before) (taken : Taken party accepted inputs before) :
    ∃ party accepted, Taken party accepted (inputs ++ [input]) after := by
  have same {session : Nat} (departed : before.Departed session) : parties party after session = party session :=
    parties_of_departed step reachable departed taken.settled
  have settled session client (held : after.session session = some client) (active : client.state.Active) :
      client.partyId = parties party after session := by
    simp [parties, held, active]
  have earlier : List.Forall₂ (fun asked sent => asked.2.SentAs (parties party after asked.1) sent) accepted before.sent := by
    refine ((List.forall₂_and_left _ _).mpr ⟨taken.departed, taken.sent⟩).imp fun asked sent both => ?_
    rw [same both.1]
    exact both.2
  rcases sent_step step reachable with silent | ⟨session, request, client, sent, asks, held, ready, sentAs, log⟩
  · refine ⟨parties party after, accepted, ?_, silent ▸ earlier, ?_, settled⟩
    · rw [List.filterMap_append]
      exact taken.order.trans (List.sublist_append_left ..)
    · exact fun asked member => (departed_step step reachable (taken.departed asked member)).1
  · have departed : before.Departed session := by
      refine ⟨(step.round reachable).2.known session (Option.ne_none_iff_exists'.mpr ⟨client, held⟩), fun other found => ?_⟩
      obtain rfl := Option.some.inj (held.symm.trans found)
      simp [ready]
    refine ⟨parties party after, accepted ++ [(session, request)], ?_, ?_, ?_, settled⟩
    · rw [List.filterMap_append]
      exact taken.order.append (by simp [asks])
    · rw [log]
      refine List.rel_append earlier (.cons ?_ .nil)
      rw [same departed, ← taken.settled session client held (by simp [ready, Client.State.Active])]
      exact sentAs
    · intro asked member
      rcases List.mem_append.mp member with old | new
      · exact (departed_step step reachable (taken.departed asked old)).1
      · obtain rfl := List.mem_singleton.mp new
        exact (departed_step step reachable departed).1

/-- The requests that the exchange sees are some of those that the clients made, in the same
order and each at most once; only their ids and their parties are the proxy's, and each session
has one party. Of the market data unsubscribes, which the proxy sends by itself too, the same is
said event by event. -/
theorem requests_in_order (runs : Runs env users realtime inputs world) :
    ∃ (party : Nat → String) (accepted : List (Nat × Request)),
      accepted.Sublist (inputs.filterMap Input.asks) ∧
      List.Forall₂ (fun asked sent => asked.2.SentAs (party asked.1) sent) accepted world.sent ∧
      (∀ session client, world.session session = some client → client.state.Active → client.partyId = party session) ∧
      ∀ earlier input later before after, inputs = earlier ++ input :: later → Runs env users realtime earlier before →
        Step env before input after → before.Sourced input after := by
  have taken : ∃ party accepted, Taken party accepted inputs world := by
    refine runs.history (fun inputs world => ∃ party accepted, Taken party accepted inputs world) ?_ ?_
    · exact ⟨fun _ => "", [], List.Sublist.refl _, .nil, by simp, fun _ _ held => nomatch held⟩
    · intro inputs input before after run step taken
      obtain ⟨party, accepted, taken⟩ := taken
      exact taken_step step ⟨users, realtime, inputs, run⟩ taken
  obtain ⟨party, accepted, taken⟩ := taken
  refine ⟨party, accepted, taken.order, taken.sent, taken.settled, fun earlier input later before after _ run step => ?_⟩
  exact sourced_step step ⟨users, realtime, earlier, run⟩

/-- The order of a client that is logged on goes upstream for its party. -/
theorem requests_in_order_loggedOn : ∃ world sent party,
    RunsUnder Regular Deployment.env Deployment.users 0 (Deployment.loggedOn ++ [Deployment.asks 1 (Deployment.order "AAAA")])
      world ∧ world.sent = [sent] ∧ (Deployment.order "AAAA").SentAs party sent := by
  obtain ⟨world, runs, checked⟩ := exists_run_of_replay Regular Deployment.env Deployment.users 0
    (Deployment.loggedOn ++ [Deployment.asks 1 (Deployment.order "AAAA")])
    (fun world => world.sent.length == 1) (by decide +kernel)
  obtain ⟨sent, log⟩ := List.length_eq_one_iff.mp (by simpa using checked)
  obtain ⟨party, accepted, order, passed, -⟩ := requests_in_order (runs_of_runsUnder runs)
  rw [log] at passed
  obtain ⟨⟨session, request⟩, rest, sentAs, none, rfl⟩ := List.forall₂_cons_right_iff.mp passed
  have made : (session, request) ∈ [(1, Deployment.order "AAAA")] := order.subset (List.mem_cons_self ..)
  obtain ⟨rfl, rfl⟩ := Prod.mk.inj (List.mem_singleton.mp made)
  exact ⟨world, sent, party 1, runs, log, sentAs⟩

end World
end FixProxy
