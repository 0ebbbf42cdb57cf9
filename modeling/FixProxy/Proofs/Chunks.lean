import FixProxy.Deployment
import FixProxy.Reading

/-! The bytes of a connection may be cut anywhere. Both sessions handle the messages that
the whole stream is made of, one after another. -/

namespace FixProxy
open Codec

/-- The format with a single message. -/
def Format.only {β : Type u} {μ : Type v} [DecidableEq β] (bytes : List β) (message : μ) (filled : bytes ≠ []) : Format β μ where
  decode buffer := if buffer = bytes then some message else none
  nonempty := if_neg (Ne.symm filled)
  prefixFree := by
    intro buffer more first other complete complete'
    obtain ⟨same, -⟩ := Option.ite_none_right_eq_some.mp complete
    obtain ⟨longer, -⟩ := Option.ite_none_right_eq_some.mp complete'
    exact List.append_right_eq_self.mp (longer.trans same.symm)

def Format.onlyDispatch {β : Type u} {μ : Type v} [DecidableEq β] (bytes : List β) (message : μ) (buffer : List β) :
    Option μ × Nat :=
  if bytes <+: buffer then (some message, bytes.length) else (none, 0)

theorem Format.only_reads {β : Type u} {μ : Type v} [DecidableEq β] {bytes : List β} (message : μ) (filled : bytes ≠ []) :
    (Format.only bytes message filled).Reads (Format.onlyDispatch bytes message) := by
  constructor
  · intro buffer incomplete
    refine if_neg ?_
    rintro ⟨rest, same⟩
    have missing : (if bytes = bytes then some message else none) = none := incomplete bytes rest same.symm
    simp at missing
  · intro buffer other rest complete
    obtain ⟨rfl, same⟩ := Option.ite_none_right_eq_some.mp complete
    rw [onlyDispatch, if_pos (List.prefix_append ..), same]

namespace Client
variable {env : Env} {clock : Nat → Clock} {session : Nat} {controller after : Controller} {handling last : Handling Framed}

theorem isZombie_iff : isZombie session handling = true ↔ Stopped session handling.controller := by
  unfold isZombie Stopped
  cases handling.controller.sessions.find session <;> simp

theorem isZombie_of_closing {what : String} (returned : closing env session what handling = .done last) :
    isZombie session last = true := by
  unfold closing at returned
  cases closed : close env session handling.controller with
  | done after =>
    rw [closed] at returned
    cases returned
    exact isZombie_iff.mpr (stopped_of_close closed)
  | _ =>
    rw [closed] at returned
    cases returned

theorem parser_records (env : Env) (clock : Nat → Clock) (session : Nat) :
    Reader.Records (parser env clock session) (closing env session) Handling.handled := by
  have parsed (message : Framed) (handling : Handling Framed) : ∃ outcome : Outcome Controller,
      parser env clock session message handling =
        outcome.map fun controller => { controller, handled := handling.handled ++ [message] } := ⟨_, rfl⟩
  constructor
  · intro message handling last returned
    obtain ⟨outcome, same⟩ := parsed message handling
    rw [same] at returned
    cases outcome with
    | done => cases returned; rfl
    | _ => cases returned
  · intro message handling what last thrown
    obtain ⟨outcome, same⟩ := parsed message handling
    rw [same] at thrown
    cases outcome with
    | thrown => cases thrown; rfl
    | _ => cases thrown
  · intro what handling last returned
    unfold closing at returned
    cases closed : close env session handling.controller with
    | done after =>
      rw [closed] at returned
      cases returned
      rfl
    | _ =>
      rw [closed] at returned
      cases returned

end Client

namespace Server
variable {env : Env} {handling last : Handling Framed}

/-- Without an end of its own and without a handler, the loop only calls the parser. -/
theorem receive_parses (env : Env) : Reader.receive (parser env) (fun _ => false) .thrown = parser env := by
  funext message handling
  simp only [Reader.receive, Bool.false_eq_true, if_false]
  cases parser env message handling <;> rfl

theorem parser_handled {messages : List Framed} (returned : Outcome.forEach messages (parser env) handling = .done last) :
    last.handled = handling.handled ++ messages := by
  induction messages generalizing handling with
  | nil =>
    cases returned
    simp
  | cons message messages ih =>
    obtain ⟨middle, first, rest⟩ := Outcome.andThen_eq_done.mp returned
    obtain ⟨outcome, same⟩ : ∃ outcome : Outcome Controller, parser env message handling =
        outcome.map fun controller => { controller, handled := handling.handled ++ [message] } := ⟨_, rfl⟩
    rw [same] at first
    cases outcome with
    | done controller =>
      cases first
      rw [ih rest, List.append_assoc, List.singleton_append]
    | _ => cases first

end Server

/-- Both sessions handle the same messages however a stream is cut: the client session every
complete one up to the first that makes it a zombie or whose handler throws, and the server
session every one of a stream whose messages are handled without an exception. -/
theorem read_events_agree (env : Env) :
    (∀ (clock : Nat → Clock) (session : Nat) {format : Format UInt8 Client.Framed}
      {dispatch : List UInt8 → Option Client.Framed × Nat} {inbound : Inbound UInt8 (Handling Client.Framed)}
      {left right : List (List UInt8)}, format.Reads dispatch → format.Incomplete inbound.buffer →
      left.flatten = right.flatten → ∃ messages rest, format.Splits (inbound.buffer ++ left.flatten) messages rest ∧
        (Outcome.forEach left (Client.connectionRead env dispatch clock session) inbound).map Inbound.state =
          Outcome.forEach messages (Client.receive env clock session) inbound.state ∧
        (Outcome.forEach right (Client.connectionRead env dispatch clock session) inbound).map Inbound.state =
          Outcome.forEach messages (Client.receive env clock session) inbound.state ∧
        ∀ last, Outcome.forEach messages (Client.receive env clock session) inbound.state = .done last →
          Reader.HandledUntil (Client.parser env clock session) (Client.isZombie session) (Client.closing env session)
            Handling.handled messages inbound.state last) ∧
    (∀ {format : Format UInt8 Server.Framed} {dispatch : List UInt8 → Option Server.Framed × Nat}
      {inbound : Inbound UInt8 (Handling Server.Framed)} {left right : List (List UInt8)}, format.Reads dispatch →
      format.Incomplete inbound.buffer → left.flatten = right.flatten →
      ∃ messages rest, format.Splits (inbound.buffer ++ left.flatten) messages rest ∧
        ∀ last, Outcome.forEach messages (Server.parser env) inbound.state = .done last →
          Outcome.forEach left (Server.connectionManagerRead env dispatch) inbound = .done ⟨rest, last⟩ ∧
          Outcome.forEach right (Server.connectionManagerRead env dispatch) inbound = .done ⟨rest, last⟩ ∧
          last.handled = inbound.state.handled ++ messages) := by
  constructor
  · intro clock session format dispatch inbound left right reads incomplete same
    obtain ⟨messages, rest, splits⟩ := Format.Splits.exists format (inbound.buffer ++ left.flatten)
    have closed what handling last (returned : Client.closing env session what handling = .done last) :
        Client.isZombie session last = true := Client.isZombie_of_closing returned
    refine ⟨messages, rest, splits, (Reader.reads_handle reads closed incomplete splits).1,
      (Reader.reads_handle reads closed incomplete (same ▸ splits)).1, fun last returned => ?_⟩
    exact Reader.handled_until (Client.parser_records env clock session) returned
  · intro format dispatch inbound left right reads incomplete same
    obtain ⟨messages, rest, splits⟩ := Format.Splits.exists format (inbound.buffer ++ left.flatten)
    refine ⟨messages, rest, splits, fun last returned => ?_⟩
    have all {pieces : List (List UInt8)} (splits : format.Splits (inbound.buffer ++ pieces.flatten) messages rest) :
        Outcome.forEach pieces (Server.connectionManagerRead env dispatch) inbound = .done ⟨rest, last⟩ := by
      obtain ⟨handled, kept⟩ := @Reader.reads_handle _ _ _ format dispatch (Server.parser env) (fun _ => false)
        .thrown messages rest pieces reads (fun _ _ _ same => nomatch same) inbound incomplete splits
      rw [Server.receive_parses, returned] at handled
      cases fed : Outcome.forEach pieces (Server.connectionManagerRead env dispatch) inbound with
      | done after =>
        have state : after.state = last := by
          unfold Server.connectionManagerRead at fed
          rw [fed] at handled
          exact Outcome.done.inj handled
        rw [← kept after fed rfl, ← state]
      | _ =>
        unfold Server.connectionManagerRead at fed
        rw [fed] at handled
        cases handled
    exact ⟨all splits, all (same ▸ splits), Server.parser_handled returned⟩

/-- A heartbeat of a client as it arrives. -/
def heartbeatBytes : List UInt8 :=
  "8=FIX.4.4\x019=48\x0135=0\x0149=test\x0156=proxy\x0134=2\x0152=20240101-00:00:00\x0110=247\x01".toUTF8.toList

def bridgeBytes : List UInt8 :=
  "8=FIX.4.4\x019=50\x0135=0\x0149=bridge\x0156=proxy\x0134=2\x0152=20240101-00:00:00\x0110=157\x01".toUTF8.toList

def heartbeat : Client.Framed := ({ Deployment.header with msgSeqNum := 2 }, .ok .heartbeat)

def bridgeHeartbeat : Server.Framed := (2, .ok .heartbeat)

private theorem heartbeatBytes_ne_nil : heartbeatBytes ≠ [] := by decide +kernel

private theorem bridgeBytes_ne_nil : bridgeBytes ≠ [] := by decide +kernel

private theorem only_twice {β : Type u} {μ : Type v} [DecidableEq β] {bytes : List β} (message : μ) (filled : bytes ≠ []) :
    (Format.only bytes message filled).Splits (bytes ++ (bytes ++ [])) [message, message] [] :=
  .message (if_pos rfl) (.message (if_pos rfl) (.rest (Format.incomplete_nil _)))

/-- Two heartbeats that arrive cut within the first, and two that arrive cut within the second. -/
theorem read_events_agree_loggedOn : ∃ world,
    World.RunsUnder World.Regular Deployment.env Deployment.users 0 Deployment.loggedOn world ∧
      (∃ last, Outcome.forEach [heartbeatBytes.take 20, heartbeatBytes.drop 20 ++ heartbeatBytes]
          (Client.connectionRead Deployment.env (Format.onlyDispatch heartbeatBytes heartbeat) (fun _ => ⟨0, 0⟩) 1)
          ⟨[], { controller := world.controller }⟩ = .done last ∧ last.state.handled = [heartbeat, heartbeat]) ∧
      ∃ last, Outcome.forEach [bridgeBytes ++ bridgeBytes.take 9, bridgeBytes.drop 9]
          (Server.connectionManagerRead Deployment.env (Format.onlyDispatch bridgeBytes bridgeHeartbeat))
          ⟨[], { controller := world.controller }⟩ = .done ⟨[], last⟩ ∧ last.handled = [bridgeHeartbeat, bridgeHeartbeat] := by
  obtain ⟨world, runs, checked⟩ := World.exists_run_of_replay World.Regular Deployment.env Deployment.users 0
    Deployment.loggedOn (fun world =>
      ((Outcome.forEach [heartbeat, heartbeat] (Client.receive Deployment.env (fun _ => ⟨0, 0⟩) 1)
        { controller := world.controller }).returned.any fun last => last.handled.length == 2) &&
      (Outcome.forEach [bridgeHeartbeat, bridgeHeartbeat] (Server.parser Deployment.env)
        { controller := world.controller }).returned.isSome) (by decide +kernel)
  obtain ⟨clients, servers⟩ := Bool.and_eq_true_iff.mp checked
  obtain ⟨last, returned, counted⟩ := (Option.any_eq_true ..).mp clients
  obtain ⟨final, ended⟩ := Option.isSome_iff_exists.mp servers
  rw [Outcome.returned_eq_some] at returned ended
  obtain ⟨client, server⟩ := read_events_agree Deployment.env
  refine ⟨world, runs, ?_, ?_⟩
  · have same : [heartbeatBytes.take 20, heartbeatBytes.drop 20 ++ heartbeatBytes].flatten =
        [heartbeatBytes ++ heartbeatBytes].flatten := by
      simp [← List.append_assoc]
    obtain ⟨messages, rest, splits, handled, -, until_⟩ := @client (fun _ => ⟨0, 0⟩) 1 _ _
      ⟨[], { controller := world.controller }⟩ _ _ (Format.only_reads heartbeat heartbeatBytes_ne_nil) (Format.incomplete_nil _) same
    obtain ⟨rfl, rfl⟩ := splits.unique (by simpa [same] using only_twice heartbeat heartbeatBytes_ne_nil)
    obtain ⟨both, later, split, record, -⟩ := until_ last returned
    have all : later = [] := by
      have lengths := congrArg List.length split
      rw [record] at counted
      simp only [List.nil_append, beq_iff_eq] at counted
      simp only [List.length_append, counted, List.length_cons, List.length_nil] at lengths
      exact List.length_eq_zero_iff.mp (by omega)
    rw [returned] at handled
    cases fed : Outcome.forEach [heartbeatBytes.take 20, heartbeatBytes.drop 20 ++ heartbeatBytes]
        (Client.connectionRead Deployment.env (Format.onlyDispatch heartbeatBytes heartbeat) (fun _ => ⟨0, 0⟩) 1)
        ⟨[], { controller := world.controller }⟩ with
    | done after =>
      rw [fed] at handled
      refine ⟨after, rfl, ?_⟩
      rw [Outcome.done.inj handled, record, split, all]
      simp
    | _ =>
      rw [fed] at handled
      cases handled
  · have same : [bridgeBytes ++ bridgeBytes.take 9, bridgeBytes.drop 9].flatten = [bridgeBytes ++ bridgeBytes].flatten := by
      simp
    obtain ⟨messages, rest, splits, handled⟩ := @server _ _ ⟨[], { controller := world.controller }⟩ _ _
      (Format.only_reads bridgeHeartbeat bridgeBytes_ne_nil) (Format.incomplete_nil _) same
    obtain ⟨rfl, rfl⟩ := splits.unique (by simpa [same] using only_twice bridgeHeartbeat bridgeBytes_ne_nil)
    obtain ⟨fed, -, record⟩ := handled final ended
    exact ⟨final, fed, record⟩

end FixProxy
