import FixProxy.Proofs.Discipline
import FixProxy.Proofs.Steady

/-! What a client session is sent carries the numbers 1, 2, 3 and so on, for as long as the
process runs. Ids are not handed out again, so a new connection begins with 1. -/

namespace FixProxy
open Codec

def Output.number (session : Nat) : Output → Option Nat
  | .toClient receiver msgSeqNum _ => if receiver = session then some msgSeqNum else none
  | _ => none

namespace Controller
variable {controller first middle last : Controller} {session : Nat}

/-- The numbers of the messages that a session has been sent, oldest first. -/
def numbers (session : Nat) (controller : Controller) : List Nat := controller.log.filterMap (Output.number session)

/-- A session has been sent the messages 1 to some number, and the number is in its record. -/
def Numbered (session : Nat) (controller : Controller) : Prop :=
  ∃ sent, controller.numbers session = List.range' 1 sent ∧
    ∀ client, controller.sessions.find session = some client → client.outboundMsgSeqNum = sent

structure Counts (first last : Controller) : Prop where
  numbered : ∀ session, Numbered session first → Numbered session last
  absent : ∀ session, first.sessions.find session = none →
    last.sessions.find session = none ∧ last.numbers session = first.numbers session

theorem Counts.trans (head : Counts first middle) (rest : Counts middle last) : Counts first last where
  numbered session numbered := rest.numbered session (head.numbered session numbered)
  absent session none := by
    obtain ⟨gone, same⟩ := head.absent session none
    obtain ⟨still, kept⟩ := rest.absent session gone
    exact ⟨still, kept.trans same⟩

private theorem counts_of_silent (numbers : ∀ session, last.numbers session = first.numbers session)
    (kept : ∀ session, (last.sessions.find session).map (·.outboundMsgSeqNum) =
      (first.sessions.find session).map (·.outboundMsgSeqNum)) : Counts first last where
  numbered session numbered := by
    obtain ⟨sent, log, count⟩ := numbered
    refine ⟨sent, (numbers session).trans log, fun client held => ?_⟩
    have same := kept session
    rw [held, Option.map_some] at same
    obtain ⟨other, found, counted⟩ := Option.map_eq_some_iff.mp same.symm
    exact counted.symm.trans (count other found)
  absent session none := by
    have same := kept session
    rw [none, Option.map_none, Option.map_eq_none_iff] at same
    exact ⟨same, numbers session⟩

private theorem counts_of_outputs {outputs : List Output} (sessions : last.sessions = first.sessions)
    (log : last.log = first.log ++ outputs) (upstream : ∀ output ∈ outputs, ∀ session, output.number session = none) :
    Counts first last := by
  refine counts_of_silent (fun session => ?_) fun session => by rw [sessions]
  rw [numbers, log, List.filterMap_append, List.filterMap_eq_nil_iff.mpr fun output member => upstream output member session,
    List.append_nil, numbers]

private theorem counts_record {change : Client.Session → Client.Session} (session : Nat) (controller : Controller)
    (counted : ∀ client, (change client).outboundMsgSeqNum = client.outboundMsgSeqNum) :
    Counts controller (controller.updateSession session change) := by
  refine counts_of_silent (fun _ => rfl) fun other => ?_
  simp only [updateSession, Map.find_update]
  split
  · next same =>
    subst same
    simp [Function.comp_def, counted]
  · rfl

private theorem counts_say (session : Nat) (message : ToClient) (controller : Controller) :
    Counts controller (controller.sendToClient session message) := by
  cases held : controller.sessions.find session with
  | none =>
    have same : controller.sendToClient session message = controller := by simp [sendToClient, held]
    rw [same]
    exact ⟨fun _ numbered => numbered, fun _ none => ⟨none, rfl⟩⟩
  | some client =>
    have log : (controller.sendToClient session message).log =
        controller.log ++ [.toClient session (client.outboundMsgSeqNum + 1) message] := by simp [sendToClient, held]
    have own : (controller.sendToClient session message).sessions.find session =
        some { client with outboundMsgSeqNum := client.outboundMsgSeqNum + 1 } := by
      simp [sendToClient, updateSession, held]
    have others other (different : other ≠ session) :
        (controller.sendToClient session message).sessions.find other = controller.sessions.find other ∧
          (controller.sendToClient session message).numbers other = controller.numbers other := by
      refine ⟨by simp [sendToClient, updateSession, held, different], ?_⟩
      simp [numbers, log, Output.number, Ne.symm different]
    constructor
    · intro other numbered
      by_cases same : other = session
      · subst same
        obtain ⟨sent, numbers, count⟩ := numbered
        refine ⟨sent + 1, ?_, fun last found => ?_⟩
        · rw [Controller.numbers, log, List.filterMap_append, List.range'_1_concat, ← numbers, count client held]
          simp [Controller.numbers, Output.number, Nat.add_comm]
        · obtain rfl := Option.some.inj (own.symm.trans found)
          exact congrArg (· + 1) (count client held)
      · obtain ⟨found, numbers⟩ := others other same
        unfold Numbered
        rw [found, numbers]
        exact numbered
    · intro other none
      have different : other ≠ session := by
        rintro rfl
        cases held.symm.trans none
      obtain ⟨found, numbers⟩ := others other different
      exact ⟨found.trans none, numbers⟩

private theorem counts_sendToServer (message : ToServer) (controller : Controller) :
    Counts controller (controller.sendToServer message) :=
  counts_of_outputs rfl rfl (by simp [Output.number])

theorem Counts.refl (controller : Controller) : Counts controller controller :=
  counts_of_outputs rfl (List.append_nil _).symm (by simp)

private theorem counts_of_fewer (log : last.log = first.log)
    (fewer : ∀ session client, last.sessions.find session = some client → first.sessions.find session = some client) :
    Counts first last where
  numbered session numbered := by
    obtain ⟨sent, numbers, count⟩ := numbered
    exact ⟨sent, by rw [Controller.numbers, log, ← numbers, Controller.numbers],
      fun client held => count client (fewer session client held)⟩
  absent session none := by
    refine ⟨?_, by rw [Controller.numbers, log, Controller.numbers]⟩
    cases held : last.sessions.find session with
    | none => rfl
    | some client => cases none.symm.trans (fewer session client held)

private theorem counts_of_upstream {outputs : List Output} (sessions : last.sessions = first.sessions)
    (log : last.log = first.log ++ outputs) (own : ∀ output ∈ outputs, output.Own) : Counts first last := by
  refine counts_of_outputs sessions log fun output member session => ?_
  cases output with
  | toServer => rfl
  | closeServer => rfl
  | _ => exact (own _ member).elim

instance : Steady Counts where
  trans _ _ _ := Counts.trans
  inner sessions log _ _ := counts_of_outputs sessions (log.trans (List.append_nil _).symm) (by simp)
  record session controller _ := counts_record session controller
  say := counts_say
  shut _ _ := counts_of_outputs rfl rfl (by simp [Output.number])
  relay {message} _ controller := by
    unfold dispatchToServer
    split
    · exact counts_sendToServer message controller
    · exact Counts.refl controller
  adjust := counts_record
  upstream sessions log own _ := counts_of_upstream sessions log own
  fewer log fewer _ := counts_of_fewer log fewer

end Controller

namespace World
open Controller (Counts Numbered)
variable {env : Env} {users : Map String (String × Nat)} {realtime : Nat} {before after world : World} {input : Input}
  {inputs : List Input} {session : Nat}

private theorem step_counted (step : Step env before input after) (settled : ∀ now, input ≠ .accept now) :
    Counts before.controller after.controller := by
  have beside {last : Controller} (sessions : last.sessions = before.controller.sessions)
      (log : last.log = before.controller.log) : Counts before.controller last :=
    Controller.counts_of_outputs sessions (log.trans (List.append_nil _).symm) (by simp)
  cases input with
  | accept now => exact absurd rfl (settled now)
  | authInsert | authRemove =>
    rw [← Outcome.done.inj step.performed]
    exact beside rfl rfl
  | _ => exact step.steady trivial

/-- Every session is numbered, and who has not yet come has been sent nothing. -/
def Counted (world : World) : Prop :=
  ∀ session, Numbered session world.controller ∧
    (world.roster.lastSession < session → world.controller.numbers session = [])

private theorem counted_step (step : Step env before input after) (reachable : Reachable env before)
    (counted : before.Counted) : after.Counted := by
  obtain ⟨plays, registered⟩ := step.round reachable
  have unheld session (later : before.roster.lastSession < session) : before.controller.sessions.find session = none := by
    by_contra held
    have known : session ≤ before.roster.lastSession := registered.known session held
    omega
  by_cases arrives : ∃ now, input = .accept now
  · obtain ⟨now, rfl⟩ := arrives
    have accepted : after.controller = Client.accept env now before.controller := (Outcome.done.inj step.performed).symm
    intro session
    obtain ⟨⟨sent, numbers, count⟩, silent⟩ := counted session
    have same : after.controller.numbers session = before.controller.numbers session := by rw [accepted]; rfl
    refine ⟨⟨sent, same.trans numbers, fun client held => ?_⟩, fun later => same.trans (silent ?_)⟩
    · rw [accepted] at held
      simp only [Client.accept, Map.find_tryEmplace] at held
      split at held
      · next new =>
        have later : before.roster.lastSession < session := by
          rw [new]
          exact Nat.lt_succ_self _
        rw [unheld _ (new ▸ later), Option.getD_none] at held
        cases held
        rw [silent later] at numbers
        cases sent with
        | zero => rfl
        | succ sent => simp [List.range'_succ] at numbers
      · exact count client held
    · exact lt_of_le_of_lt plays.lastSession later
  · have counts := step_counted step fun now same => arrives ⟨now, same⟩
    intro session
    refine ⟨counts.numbered session (counted session).1, fun later => ?_⟩
    have later : before.roster.lastSession < session := lt_of_le_of_lt plays.lastSession later
    rw [(counts.absent session (unheld session later)).2]
    exact (counted session).2 later

/-- The messages that a connection is given are numbered 1, 2, 3 and so on, without a gap or a
repetition, and the count in the session's record is the number of the last one. -/
theorem messages_numbered (runs : Runs env users realtime inputs world) (session : Nat) :
    ∃ sent, world.controller.numbers session = List.range' 1 sent ∧
      ∀ client, world.session session = some client → client.outboundMsgSeqNum = sent := by
  have both := runs.preserves (fun world => Reachable env world ∧ world.Counted)
    (fun step ⟨reachable, counted⟩ => ⟨reachable.step step, counted_step step reachable counted⟩)
    ⟨⟨users, realtime, [], .nil _⟩, fun _ => ⟨⟨0, rfl, fun _ held => nomatch held⟩, fun _ => rfl⟩⟩
  exact (both.2 session).1

/-- A client that is logged on and subscribes twice under one id has been sent two messages. -/
theorem messages_numbered_subscribed : ∃ world,
    RunsUnder Regular Deployment.env Deployment.users 0
      (Deployment.subscribed ++ [Deployment.asks 1 (Deployment.marketData "AAAA" .snapshotUpdates)]) world ∧
      world.controller.numbers 1 = [1, 2] := by
  obtain ⟨world, runs, checked⟩ := exists_run_of_replay Regular Deployment.env Deployment.users 0
    (Deployment.subscribed ++ [Deployment.asks 1 (Deployment.marketData "AAAA" .snapshotUpdates)])
    (fun world => (world.session 1).any fun client => client.outboundMsgSeqNum == 2) (by decide +kernel)
  simp only [beq_iff_eq, Option.any_eq_true] at checked
  obtain ⟨client, held, two⟩ := checked
  obtain ⟨sent, numbers, count⟩ := messages_numbered (runs_of_runsUnder runs) 1
  obtain rfl : sent = 2 := (count client held).symm.trans two
  exact ⟨world, runs, numbers⟩

end World
end FixProxy
