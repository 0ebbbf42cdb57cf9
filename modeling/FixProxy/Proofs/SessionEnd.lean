import FixProxy.Proofs.RouterIndex
import FixProxy.View

/-! How a session ends. Whatever closes it, its ids are cleared and its route is
released in one step of the router, and nothing on the way can fail as long as
the upstream session accepts what the controller believes it accepts. -/

namespace FixProxy
open Codec

namespace Router

/-- Whenever the controller is ready, the upstream session accepts a request. -/
def Prepared (router : Router) : Prop := router.ready = true → router.upstream = .ready

end Router

namespace Controller
variable {answered : List String} {controller : Controller}

/-- A callback that only sends. -/
def Quiet (answered : List String) (callback : String → Controller → Outcome Controller) : Prop :=
  ∀ reqId controller, (controller.view answered).Prepared →
    ∃ after, callback reqId controller = .done after ∧ after.view answered = controller.view answered

private theorem ignore_quiet : Quiet answered ignore := fun _ controller _ => ⟨controller, rfl, rfl⟩

private theorem unsubscribeMarketData_quiet : Quiet answered unsubscribeMarketData := by
  intro reqId controller prepared
  unfold unsubscribeMarketData
  cases ready : controller.ready with
  | false => exact ⟨controller, by simp, rfl⟩
  | true =>
    have accepted : controller.serverSession.state = .ready := prepared ready
    refine ⟨_, by simp [dispatchToServer, accepted]; rfl, ?_⟩
    exact view_sendToServer answered controller fun request => by simp

private theorem toIndex_erase (mapping : Mapping) (reqId : String) :
    Mapping.toIndex { mapping with serverToClient := mapping.serverToClient.erase reqId } =
      mapping.toIndex.forget [reqId] := by
  apply Index.ext
  · funext other
    simp [Mapping.toIndex, Index.forget, Function.update_apply]
  · rfl
  · rfl

private theorem toIndex_eraseOwner (mapping : Mapping) (session : Nat) :
    Mapping.toIndex { mapping with clientToServer := mapping.clientToServer.erase session } =
      { mapping.toIndex with
        key := Function.update mapping.toIndex.key session fun _ => none
        present := fun other => mapping.toIndex.present other ∧ other ≠ session } := by
  apply Index.ext
  · rfl
  · funext other name
    by_cases same : other = session
    · subst other
      simp [Mapping.toIndex]
    · simp [Mapping.toIndex, same]
  · funext other
    by_cases same : other = session
    · subst other
      simp [Mapping.toIndex]
    · simp [Mapping.toIndex, same]

/-- The two halves of `clear_req_ids` together. -/
private theorem toIndex_clear {mapping looped : Mapping} {session : Nat} {inner : Map String String}
    (held : mapping.clientToServer.find session = some inner)
    (loop : looped.toIndex = mapping.toIndex.forget (inner.toList.map (·.2))) :
    Mapping.toIndex { looped with clientToServer := looped.clientToServer.erase session } =
      mapping.toIndex.clear session := by
  rw [toIndex_eraseOwner, loop]
  apply Index.ext
  · funext id
    have keyed : id ∈ inner.toList.map (·.2) ↔ ∃ name, mapping.toIndex.key session name = some id := by
      simp only [Mapping.toIndex, held, Option.bind_some, List.mem_map]
      constructor
      · rintro ⟨⟨name, _⟩, member, rfl⟩
        exact ⟨name, Map.mem_toList.mp member⟩
      · rintro ⟨name, found⟩
        exact ⟨(name, id), Map.mem_toList.mpr found, rfl⟩
    simp only [Index.forget, Index.clear]
    by_cases held : id ∈ inner.toList.map (·.2)
    · rw [if_pos held, if_pos (keyed.mp held)]
    · rw [if_neg held, if_neg (mt keyed.mpr held)]
  · rfl
  · rfl

private theorem forEach_forget (name : MappingName) {callback : String → Controller → Outcome Controller}
    (quiet : Quiet answered callback)
    (ids : List String) (controller : Controller) (prepared : (controller.view answered).Prepared) :
    ∃ after, Outcome.forEach ids (fun reqId controller =>
      (callback reqId controller).andThen fun controller =>
        .done (controller.setMapping name
          { controller.mapping name with
            serverToClient := (controller.mapping name).serverToClient.erase reqId })) controller = .done after ∧
      after.view answered =
        (controller.view answered).setIndex name (((controller.view answered).index name).forget ids) := by
  induction ids generalizing controller with
  | nil => exact ⟨controller, rfl, by simp⟩
  | cons id ids ih =>
    obtain ⟨called, call, same⟩ := quiet id controller prepared
    have erased := view_setMapping answered called name (toIndex_erase (called.mapping name) id)
    have index : (called.mapping name).toIndex = (controller.view answered).index name := by
      rw [← same]
      rfl
    rw [same, index] at erased
    obtain ⟨after, rest, shape⟩ := ih _ (by rw [erased]; exact prepared)
    refine ⟨after, by simp only [Outcome.forEach, call, Outcome.andThen_done]; exact rest, ?_⟩
    rw [shape, erased]
    simp [Index.forget_forget]

private theorem clearReqIds_view (name : MappingName) (session : Nat)
    {callback : String → Controller → Outcome Controller} (quiet : Quiet answered callback)
    (prepared : (controller.view answered).Prepared) :
    ∃ after, controller.clearReqIds name session callback = .done after ∧
      after.view answered =
        (controller.view answered).setIndex name (((controller.view answered).index name).clear session) := by
  unfold clearReqIds
  cases held : (controller.mapping name).clientToServer.find session with
  | none =>
    have unchanged : ((controller.view answered).index name).clear session = (controller.view answered).index name :=
      Index.clear_of_absent (fun reqId => by simp [view, Mapping.toIndex, held])
        (by simp [view, Mapping.toIndex, held])
    exact ⟨controller, rfl, by rw [unchanged, Router.setIndex_self]⟩
  | some inner =>
    obtain ⟨looped, loop, shape⟩ := forEach_forget name quiet (inner.toList.map (·.2)) controller prepared
    have forgotten : (looped.mapping name).toIndex =
        (controller.mapping name).toIndex.forget (inner.toList.map (·.2)) := by
      have index : (looped.mapping name).toIndex = (looped.view answered).index name := rfl
      rw [index, shape]
      exact Function.update_self ..
    refine ⟨_, by simp only [loop, Outcome.andThen_done]; rfl, ?_⟩
    rw [view_setMapping answered looped name (toIndex_clear held forgotten), shape]
    simp [Router.setIndex]
    rfl

theorem view_setUser (user : User) :
    (controller.setUser user).view answered =
      { controller.view answered with
        route := user.clientToSession.find
        owner := user.sessionToClient.find
        pending := user.serverToClient.find
        waiting := user.clientToServer.find } := rfl

theorem releaseUser_silent (session : Nat)
    (silent : (controller.view answered).owner session = none ∨ (controller.view answered).ready = false) :
    ∃ after, controller.releaseUser session = .done after ∧
      after.view answered =
        { controller.view answered with
          route := fun username =>
            if (controller.view answered).owner session = some username then none
            else (controller.view answered).route username
          owner := Function.update (controller.view answered).owner session none } := by
  unfold releaseUser
  cases owned : controller.subscriptions.user.sessionToClient.find session with
  | none =>
    have unowned : (controller.view answered).owner session = none := owned
    refine ⟨controller, rfl, ?_⟩
    rw [← unowned, Function.update_eq_self]
    simp [unowned]
  | some username =>
    have owner : (controller.view answered).owner session = some username := owned
    have unready : controller.ready = false := by
      obtain unowned | unready := silent
      · rw [owner] at unowned
        cases unowned
      · exact unready
    refine ⟨_, by simp only [unready, Bool.false_eq_true, if_false, Outcome.andThen_done]; rfl, ?_⟩
    rw [view_setUser, owner]
    simp only [Map.find_erase_fun, Option.some.injEq]
    congr 1
    funext other
    simp [Function.update_apply, view, eq_comm]

theorem releaseUser_asking {session : Nat} {username : String}
    (owned : (controller.view answered).owner session = some username)
    (ready : (controller.view answered).ready = true) (upstream : (controller.view answered).upstream = .ready) :
    ∃ after, controller.releaseUser session = .done after ∧
      after.view answered =
        { controller.view answered with
          route := Function.update (controller.view answered).route username none
          owner := Function.update (controller.view answered).owner session none
          lastRequest := (controller.view answered).lastRequest + 1
          waiting := emplace (controller.view answered).waiting session (controller.view answered).nextId
          pending := emplace (controller.view answered).pending (controller.view answered).nextId session
          asked := (controller.view answered).asked ++
            [⟨(controller.view answered).nextId, .logOffUser, username⟩] } := by
  have owner : controller.subscriptions.user.sessionToClient.find session = some username := owned
  have isReady : controller.ready = true := ready
  have accepted : controller.createRequestId.2.serverSession.state = .ready := upstream
  unfold releaseUser
  simp only [owner, isReady, if_true, dispatchToServer, accepted, Outcome.andThen_done]
  refine ⟨_, rfl, ?_⟩
  rw [view_setUser, view_setUser, view_sendToServer_userRequest, view_createRequestId]
  simp [setUser, sendToServer, createRequestId_fst answered controller]
  exact ⟨rfl, rfl, rfl, rfl⟩

/-- The router in which nothing is left in any index for a session. -/
noncomputable def cleared (session : Nat) (router : Router) : Router :=
  { router with index := fun name => (router.index name).clear session }

private theorem clearReqIds_andThen (name : MappingName) (session : Nat)
    {callback : String → Controller → Outcome Controller} (quiet : Quiet answered callback)
    (next : Controller → Outcome Controller) {router : Router}
    (current : controller.view answered = router) (prepared : router.Prepared) :
    ∃ after, (controller.clearReqIds name session callback).andThen next = next after ∧
      after.view answered = router.setIndex name ((router.index name).clear session) := by
  subst current
  obtain ⟨after, call, view⟩ := clearReqIds_view name session quiet prepared
  exact ⟨after, by rw [call, Outcome.andThen_done], view⟩

theorem sessionDisconnected_eq (session : Nat) (prepared : (controller.view answered).Prepared) :
    ∃ after : Controller, controller.sessionDisconnected session = after.releaseUser session ∧
      after.view answered = cleared session (controller.view answered) := by
  unfold sessionDisconnected
  have received : ({ controller with disconnects := controller.disconnects ++ [session] } : Controller).view answered =
      controller.view answered := rfl
  simp only
  obtain ⟨_, call, view⟩ := clearReqIds_andThen .securityReqId session ignore_quiet _ received prepared
  rw [call]
  obtain ⟨_, call, view⟩ := clearReqIds_andThen _ session ignore_quiet _ view prepared
  rw [call]
  obtain ⟨_, call, view⟩ := clearReqIds_andThen _ session ignore_quiet _ view prepared
  rw [call]
  obtain ⟨_, call, view⟩ := clearReqIds_andThen _ session unsubscribeMarketData_quiet _ view prepared
  rw [call]
  obtain ⟨_, call, view⟩ := clearReqIds_andThen _ session ignore_quiet _ view prepared
  rw [call]
  obtain ⟨_, call, view⟩ := clearReqIds_andThen _ session ignore_quiet _ view prepared
  rw [call]
  obtain ⟨_, call, view⟩ := clearReqIds_andThen _ session ignore_quiet _ view prepared
  rw [call]
  obtain ⟨_, call, view⟩ := clearReqIds_andThen _ session ignore_quiet _ view prepared
  rw [call]
  obtain ⟨_, call, view⟩ := clearReqIds_andThen _ session ignore_quiet _ view prepared
  rw [call]
  obtain ⟨after, call, view⟩ := clearReqIds_andThen _ session ignore_quiet _ view prepared
  refine ⟨after, call, ?_⟩
  rw [view, cleared]
  simp only [Router.setIndex]
  congr 1
  funext name
  cases name <;> rfl

end Controller

namespace Client
variable {answered : List String} {controller : Controller}

open Router (Step)

/-- What the end of a session is, seen from the router. -/
def Ended (session : Nat) (before after : Router) : Prop :=
  match before.session session with
  | none | some (.zombie, _) => after = before
  | some (.waitingLogon, party) =>
    after =
      { before with
        session := Function.update before.session session (some (.zombie, party))
        doomed := before.doomed.insert session }
  | some _ => ∃ action, action.Ends session ∧ Step before action after

theorem sessionRemoveHelper_frame (session : Nat) (shared : Shared) :
    (shared.sessionRemoveHelper session).sessionsToRemove = shared.sessionsToRemove ∧
      (shared.sessionRemoveHelper session).nextSessionId = shared.nextSessionId ∧
      (shared.sessionRemoveHelper session).nextRequestId = shared.nextRequestId := by
  unfold Shared.sessionRemoveHelper
  split <;> simp

private theorem view_sessionRemove (session : Nat) (controller : Controller) :
    ({ controller with shared := controller.shared.sessionRemove session } : Controller).view answered =
      { controller.view answered with doomed := (controller.view answered).doomed.insert session } := by
  obtain ⟨doomed, lastSession, lastRequest⟩ := sessionRemoveHelper_frame session
    { controller.shared with sessionsToRemove := controller.shared.sessionsToRemove.insert session }
  simp only [Controller.view, Shared.sessionRemove, doomed, lastSession, lastRequest]
  rfl

theorem view_setState {session : Nat} {old : Client.State} {party : String} (state : Client.State)
    (held : (controller.view answered).session session = some (old, party)) :
    (setState session state controller).view answered =
      { controller.view answered with
        session := Function.update (controller.view answered).session session (some (state, party)) } := by
  obtain ⟨client, found, shape⟩ := Option.map_eq_some_iff.mp held
  obtain ⟨rfl, rfl⟩ := Prod.mk.inj shape
  exact Controller.view_updateSession_held answered controller found fun client => { client with state }

private theorem view_bury {session : Nat} {state : Client.State} {party : String}
    (held : (controller.view answered).session session = some (state, party)) :
    (bury session controller).view answered =
      { controller.view answered with
        session := Function.update (controller.view answered).session session (some (.zombie, party))
        doomed := (controller.view answered).doomed.insert session } := by
  unfold bury
  rw [view_sessionRemove, view_setState .zombie held]

/-- The Disconnected handler and the burial together are one step of the router. -/
private theorem retire_ends {session : Nat} {state : Client.State} {party : String}
    (sound : (controller.view answered).Sound)
    (held : (controller.view answered).session session = some (state, party)) (active : state.Active) :
    ∃ after, ((controller.sessionDisconnected session).andThen fun controller => .done (bury session controller)) =
        .done after ∧
      ∃ action : Action, action.Ends session ∧ Step (controller.view answered) action (after.view answered) := by
  have silent : ((controller.view answered).owner session = none ∨ (controller.view answered).ready = false) ∨
      ∃ username, (controller.view answered).owner session = some username ∧
        (controller.view answered).ready = true := by
    cases owned : (controller.view answered).owner session with
    | none => exact Or.inl (Or.inl rfl)
    | some username =>
      cases ready : (controller.view answered).ready with
      | false => exact Or.inl (Or.inr rfl)
      | true => exact Or.inr ⟨username, rfl, rfl⟩
  obtain ⟨clear, call, view⟩ := Controller.sessionDisconnected_eq session sound.prepared
  rw [call]
  obtain silent | ⟨username, owned, ready⟩ := silent
  · obtain ⟨released, release, shape⟩ := Controller.releaseUser_silent session (by rw [view]; exact silent)
    refine ⟨_, by rw [release, Outcome.andThen_done], .retire session, rfl, ?_⟩
    rw [view_bury (by rw [shape, view]; exact held), shape, view]
    exact .retire held active silent
  · have upstream := sound.prepared ready
    obtain ⟨released, release, shape⟩ := Controller.releaseUser_asking (by rw [view]; exact owned)
      (by rw [view]; exact ready) (by rw [view]; exact upstream)
    refine ⟨_, by rw [release, Outcome.andThen_done], .retireAsking session username, rfl, ?_⟩
    rw [view_bury (by rw [shape, view]; exact held), shape, view]
    exact .retireAsking held active owned ready

theorem makeZombie_ends (session : Nat) (sound : (controller.view answered).Sound) :
    ∃ after, makeZombie session controller = .done after ∧
      Ended session (controller.view answered) (after.view answered) := by
  unfold makeZombie withSession Ended
  cases found : controller.sessions.find session with
  | none =>
    have absent : (controller.view answered).session session = none := by simp [Controller.view, found]
    exact ⟨controller, rfl, by rw [absent]⟩
  | some client =>
    have held : (controller.view answered).session session = some (client.state, client.partyId) := by
      simp [Controller.view, found, Client.Session.shape]
    rw [held]
    simp only
    cases state : client.state with
    | zombie => exact ⟨controller, rfl, rfl⟩
    | waitingLogon => exact ⟨_, rfl, view_bury held⟩
    | waitingCreateRoute => exact retire_ends sound held (by rw [state]; trivial)
    | ready => exact retire_ends sound held (by rw [state]; trivial)
    | waitingRemoveRoute => exact retire_ends sound held (by rw [state]; trivial)

private theorem ended_of_dead {session : Nat} {before after : Router}
    (dead : before.session session = none ∨ ∃ party, before.session session = some (.zombie, party))
    (ended : Ended session before after) : after = before := by
  unfold Ended at ended
  obtain gone | ⟨party, zombie⟩ := dead
  · rwa [gone] at ended
  · rwa [zombie] at ended

theorem dead_of_ended {session : Nat} {before after : Router} (ended : Ended session before after) :
    after.session session = none ∨ ∃ party, after.session session = some (.zombie, party) := by
  unfold Ended at ended
  split at ended
  · next gone => exact Or.inl (ended ▸ gone)
  · next party zombie => exact Or.inr ⟨party, ended ▸ zombie⟩
  · next party arriving => exact Or.inr ⟨party, by rw [ended]; exact Function.update_self ..⟩
  · obtain ⟨action, ends, step⟩ := ended
    cases step with
    | retire => cases ends; exact Or.inr ⟨_, Function.update_self ..⟩
    | retireAsking => cases ends; exact Or.inr ⟨_, Function.update_self ..⟩
    | _ => exact ends.elim

theorem sound_ended {session : Nat} {before after : Router} (sound : before.Sound)
    (ended : Ended session before after) : after.Sound := by
  unfold Ended at ended
  split at ended
  · exact ended ▸ sound
  · exact ended ▸ sound
  · next party arriving => exact ended ▸ Router.sound_step (.drop arriving) sound
  · obtain ⟨action, -, step⟩ := ended
    exact Router.sound_step step sound

theorem close_ends (env : Env) (session : Nat) (sound : (controller.view answered).Sound) :
    ∃ after, close env session controller = .done after ∧
      Ended session (controller.view answered) (after.view answered) := by
  unfold close withSession
  cases found : controller.sessions.find session with
  | none =>
    have absent : (controller.view answered).session session = none := by simp [Controller.view, found]
    exact ⟨controller, rfl, by simp [Ended, absent]⟩
  | some client =>
    have held : (controller.view answered).session session = some (client.state, client.partyId) := by
      simp [Controller.view, found, Client.Session.shape]
    by_cases zombie : client.state = .zombie
    · exact ⟨controller, by simp [zombie], by simp [Ended, held, zombie]⟩
    · simp only [zombie, if_false]
      have quiet : ({ controller with log := controller.log ++ [.closeClient session] } : Controller).view answered =
          controller.view answered := by
        apply Controller.view_congr <;> try rfl
        simp [Controller.userRequests, Output.userRequest?]
      cases back : env.library.closeCallsBack session with
      | false =>
        simp only [Bool.false_eq_true, if_false, Outcome.andThen_done]
        rw [← quiet] at sound ⊢
        exact makeZombie_ends session sound
      | true =>
        simp only [if_true]
        rw [← quiet] at sound ⊢
        obtain ⟨called, call, ended⟩ := makeZombie_ends session sound
        obtain ⟨after, again, same⟩ := makeZombie_ends session (sound_ended sound ended)
        refine ⟨after, by rw [call, Outcome.andThen_done, again], ?_⟩
        rw [ended_of_dead (dead_of_ended ended) same]
        exact ended

theorem sendAndClose_ends (env : Env) (session : Nat) (message : ToClient) (sound : (controller.view answered).Sound) :
    ∃ after, sendAndClose env session message controller = .done after ∧
      Ended session (controller.view answered) (after.view answered) := by
  have view := Controller.view_sendToClient answered controller session message
  obtain ⟨after, call, ended⟩ := close_ends env session (view ▸ sound)
  exact ⟨after, call, view ▸ ended⟩

end Client
end FixProxy
