import SignOn.Proofs.Engine.Conduct
import SignOn.Proofs.Http.Requests

/-!
# What the site asks providers

A request has a provider asked only where it lands after a login at this provider with a code and
without an error, and then once, for this code, whatever the provider, the stores and the clock say
(`Site.asksOnce`).
-/

namespace SignOn

set_option autoImplicit false

/-! ## Asking nobody -/

namespace Engine

variable {α : Type} {guard : List Moment → Action → Prop} {past : List Moment}

/-- The action asks no provider. -/
def Action.AsksNobody : Action → Prop
  | .askProvider _ _ => False
  | _ => True

/-- No provider has been asked so far. -/
def Unasked (past : List Moment) : Prop := ∀ moment ∈ past, moment.action.AsksNobody

theorem routine_asksNobody : Routine Action.AsksNobody :=
  ⟨trivial, trivial, fun _ => trivial, fun _ _ => trivial⟩

/-- A program that asks nobody keeps every contract that is about asking. -/
theorem Program.Only.unasked {program : Program α} (only : program.Only Action.AsksNobody)
    (lenient : ∀ past action, action.AsksNobody → guard past action) (unasked : Unasked past) :
    program.Meets guard (fun past _ => Unasked past) past := by
  have ends : program.Meets (fun _ _ => True) (fun _ _ => True) past :=
    (only past).mono (fun _ _ _ => trivial) fun _ _ ended => ended
  refine only.meets ends lenient ?_
  intro more value silent _ moment member
  rcases List.mem_append.1 member with later | earlier
  · exact silent moment later
  · exact unasked moment earlier

end Engine

/-! ## Landing requests -/

namespace Http

open Engine (Action Context Moment Operation Program Unasked)
open Engine.Operation (only_act only_bind only_ofOutcome only_ofVerdict only_pure only_reject
  meets_act meets_bind meets_ofVerdict)

variable {service : Engine.Service} {context : Context} {name : String} {query : CallbackQuery}

/-- What a login that lands with a query may ask: the provider of the name, for the code. -/
structure Landing (name : String) (query : CallbackQuery) (provider : Provider) (code : String) :
    Prop where
  known : Provider.require name = .ok provider
  granted : query.error = none
  coded : query.code = some code
  something : code ≠ ""

/-- Providers are asked only as allowed, and nobody is asked twice. -/
def AsksOnce (allowed : Provider → String → Prop) (past : List Moment) (action : Action) : Prop :=
  ∀ provider code, action = .askProvider provider code → allowed provider code ∧ Unasked past

theorem asksOnce_of_asksNobody {allowed : Provider → String → Prop} (past : List Moment)
    (action : Action) (silent : action.AsksNobody) : AsksOnce allowed past action := by
  rintro provider code rfl
  exact silent.elim

theorem AsksOnce.mono {allowed further : Provider → String → Prop} {past : List Moment}
    {action : Action} (once : AsksOnce allowed past action)
    (more : ∀ provider code, allowed provider code → further provider code) :
    AsksOnce further past action :=
  fun provider code same => (once provider code same).imp_left (more provider code)

/-- How a landing login goes on with the answer of the provider. -/
def landWith (service : Engine.Service) (context : Context) (provider : Provider) :
    Except ProviderError Json → Operation TokenPair
  | .error error => Operation.ofOutcome (.error (.provider error))
  | .ok payload => do
      let callback ← Operation.ofVerdict (Callback.ofUserinfo provider payload)
      let landed ← service.providerLogin context callback
      return landed.2

theorem landLogin_eq : landLogin service context name query = (do
    let provider ← Operation.ofVerdict (Provider.require name)
    if query.error.isSome then Operation.reject .unauthenticated
    else
      match query.code.filter (· ≠ "") with
      | none => Operation.reject .emptyCredential
      | some code => do
          let answer ← Operation.act (.askProvider provider code)
          landWith service context provider answer) := by
  unfold landLogin
  congr
  funext provider
  congr
  funext code
  congr
  funext answer
  cases answer <;> rfl

/-- Once a provider has answered, nobody is asked. -/
theorem only_landWith (provider : Provider) (answer : Except ProviderError Json) :
    (landWith service context provider answer).Only Action.AsksNobody := by
  cases answer with
  | error error => exact only_ofOutcome _
  | ok payload =>
    refine only_bind (only_ofVerdict _) fun callback => only_bind ?_ fun _ => only_pure _
    exact Engine.Service.only_providerLogin Engine.routine_asksNobody (fun _ _ => trivial)
      (fun _ => trivial) fun _ _ => trivial

/-- A landing login asks a provider once at most. -/
theorem meets_landLogin {past : List Moment} (unasked : Unasked past) :
    (landLogin service context name query).Meets (AsksOnce (Landing name query)) (fun _ _ => True)
      past := by
  have asksNobody {operation : Operation TokenPair} {past : List Moment}
      (only : operation.Only Action.AsksNobody) :
      operation.Meets (AsksOnce (Landing name query)) (fun _ _ => True) past :=
    (only past).mono asksOnce_of_asksNobody fun _ _ ended => ended
  rw [landLogin_eq, meets_bind, meets_ofVerdict]
  cases known : Provider.require name with
  | error rejection => trivial
  | ok provider =>
    change Operation.Meets _ _ _ _
    by_cases granted : query.error = none
    · rw [if_neg (by simp [granted])]
      cases coded : query.code.filter (· ≠ "") with
      | none => exact asksNobody (only_reject _)
      | some code =>
        obtain ⟨given, something⟩ := Option.filter_eq_some_iff.1 coded
        dsimp only
        rw [meets_bind, meets_act]
        constructor
        · rintro asked _ ⟨⟩
          exact ⟨⟨known, granted, given, of_decide_eq_true something⟩, unasked⟩
        · intro answer
          exact asksNobody (only_landWith provider answer)
    · rw [if_pos (Option.isSome_iff_ne_none.2 granted)]
      exact asksNobody (only_reject _)

/-! ## Requests -/

/-- What a request may have asked: the provider after whose login it lands, for the code that it
brings. -/
def Request.Lands (request : Request) (provider : Provider) (code : String) : Prop :=
  ∃ tag name query, request.route = some (.callback tag) ∧
    (Route.callback tag).allows request.method = true ∧ unescape? tag = some name ∧
    CallbackQuery.ofQuery? request.location.2 = some query ∧ Landing name query provider code

theorem only_passGate (request : Request) :
    (passGate service request).Only Action.AsksNobody := by
  unfold passGate
  dsimp only
  split
  · exact only_pure _
  · refine only_bind ?_ fun _ => only_pure _
    exact Engine.Service.only_authorize Engine.routine_asksNobody trivial

theorem only_answer {operation : Operation Response} {allowed : Action → Prop}
    (only : operation.Only allowed) : (answer operation).Only allowed := by
  intro past
  rw [answer, Program.meets_bind]
  refine (only past).mono (fun _ _ isAllowed => isAllowed) ?_
  intro past outcome _
  cases outcome <;> trivial

namespace Site

variable {site : Site} {caller : Caller} {request : Request} {past : List Moment}

theorem only_reissue : (site.reissue caller request).Only Action.AsksNobody := by
  apply only_answer
  split
  · exact only_reject _
  · refine only_bind ?_ fun _ => only_pure _
    exact Engine.Service.only_reissue Engine.routine_asksNobody (fun _ => trivial)
      fun _ _ => trivial

theorem only_logout : (site.logout caller).Only Action.AsksNobody := by
  apply only_answer
  split
  · exact only_reject _
  · refine only_bind ?_ fun _ => only_pure _
    exact Engine.Service.only_logout Engine.routine_asksNobody (fun _ _ => trivial)
      fun _ _ _ => trivial

theorem only_me : (me caller).Only Action.AsksNobody := by
  apply only_answer
  split
  · exact only_reject _
  · exact only_pure _

/-- A place asks a provider only for a request that lands. -/
theorem meets_dispatch (unasked : Unasked past) :
    (site.dispatch caller request request.route).Meets (AsksOnce request.Lands) (fun _ _ => True)
      past := by
  have asksNobody {program : Program Response} (only : program.Only Action.AsksNobody) :
      program.Meets (AsksOnce request.Lands) (fun _ _ => True) past :=
    (only past).mono asksOnce_of_asksNobody fun _ _ ended => ended
  cases place : request.route with
  | none => trivial
  | some route =>
    by_cases allowed : route.allows request.method = true
    · cases route with
      | reissue =>
        rw [dispatch_reissue allowed]
        exact asksNobody only_reissue
      | logout =>
        rw [dispatch_logout allowed]
        exact asksNobody only_logout
      | me =>
        rw [dispatch_me allowed]
        exact asksNobody only_me
      | callback tag =>
        rw [dispatch_callback allowed]
        unfold callback
        split
        · trivial
        · trivial
        · next name query named asked =>
          rw [Program.meets_bind]
          refine Program.Meets.mono (meets_landLogin unasked) ?_ ?_
          · intro past action once
            refine once.mono fun provider code landing => ?_
            exact ⟨tag, name, query, place, allowed, named, asked, landing⟩
          · intro past outcome _
            cases outcome <;> trivial
    · rw [dispatch_of_not_allows allowed]
      trivial

/-- **A request has a provider asked once at most**, and only if it lands after a login at this
provider, without an error and with the code for which the provider is asked. -/
theorem asksOnce (site : Site) (freshId : String) (request : Request) :
    (site.handle freshId request).Meets (AsksOnce request.Lands) (fun _ _ => True) [] := by
  rw [handle, Program.meets_bind]
  refine Program.Meets.mono ((only_passGate request).unasked asksOnce_of_asksNobody
    (List.forall_mem_nil _)) (fun _ _ once => once) ?_
  intro past outcome unasked
  cases outcome with
  | error failure => trivial
  | ok caller =>
    dsimp only
    rw [Program.meets_bind]
    exact (meets_dispatch unasked).mono (fun _ _ once => once) fun _ _ _ => trivial

end Site

end Http

end SignOn
