import BlockMail.Http.Api
import BlockMail.Proofs.Service.Aftermath

/-!
# What a response accounts for

The status of a response says whether anything was changed. Every error arises before
the only call that writes, or is what that call itself comes to, so a response that is no
success stands for a world as it was.
-/

set_option autoImplicit false

namespace BlockMail.Http

open Service (World)
open Store (Entry)

/-- What a request asks for, if its path names a resource that admits its method. -/
def Request.action? (request : Request) : Option Action :=
  if request.method = "OPTIONS" then none
  else (Route.ofPath? request.path).bind fun route => route.action? request.method

/-- A status in the two hundreds. -/
def Response.Success (response : Response) : Prop :=
  200 ≤ response.status ∧ response.status < 300

instance (response : Response) : Decidable response.Success :=
  inferInstanceAs (Decidable (_ ∧ _))

theorem handling_eq (service : Service) {request : Request} {action : Action}
    (asked : request.action? = some action) (fresh : DocumentId) (now : Time.Instant) :
    handling service request fresh now = handlingOf service request action fresh now := by
  unfold Request.action? at asked
  unfold handling
  split at asked
  · cases asked
  · rename_i notOptions
    rw [if_neg notOptions]
    obtain ⟨route, found, admitted⟩ := Option.bind_eq_some_iff.1 asked
    simp only [found, admitted]

theorem handling_of_none (service : Service) {request : Request}
    (nothing : request.action? = none) (fresh : DocumentId) (now : Time.Instant) :
    ∃ response, handling service request fresh now = .answered response := by
  unfold Request.action? at nothing
  unfold handling
  split at nothing
  · rename_i options
    rw [if_pos options]
    exact ⟨_, rfl⟩
  · rename_i notOptions
    rw [if_neg notOptions]
    cases found : Route.ofPath? request.path with
    | none => exact ⟨_, rfl⟩
    | some route =>
        rw [found, Option.bind_some] at nothing
        simp only [nothing]
        exact ⟨_, rfl⟩

/-! ## Successes and what they change -/

/-- A handling that changes the world as accepted if its response is a success, and not
at all otherwise. -/
structure Handling.Accounts (world : World) (now : Time.Instant) (handling : Handling)
    (accepted : World → Prop) : Prop where
  success : (carryOut world now handling).2.Success →
    accepted (carryOut world now handling).1
  failure : ¬(carryOut world now handling).2.Success →
    (carryOut world now handling).1 = world

theorem success_json {status : Nat} (inside : 200 ≤ status ∧ status < 300) (value : Json) :
    (Response.json status value).Success :=
  inside

theorem success_page (content : String) : (Response.page content).Success :=
  show 200 ≤ 200 ∧ 200 < 300 by decide

/-- Refusals are errors of the client or of the server. -/
theorem le_statusOf (cause : ServiceError) : 400 ≤ statusOf cause := by
  cases cause <;> simp [statusOf]

theorem not_success_refused (cause : ServiceError) : ¬(refused cause).Success := by
  have status : (refused cause).status = statusOf cause := rfl
  have error := le_statusOf cause
  unfold Response.Success
  omega

theorem status_of_fault (fault : BodyFault) :
    400 ≤ fault.response.status ∧ fault.response.status < 500 := by
  cases fault <;> simp [BodyFault.response, Response.plain]

theorem not_success_fault (fault : BodyFault) : ¬fault.response.Success := by
  have error := status_of_fault fault
  unfold Response.Success
  omega

section Rules

variable {world : World} {now : Time.Instant} {accepted : World → Prop}

theorem accounts_answered {response : Response} (failed : ¬response.Success) :
    (Handling.answered response).Accounts world now accepted := by
  constructor
  · intro success
    exact absurd success failed
  · intro _
    rfl

theorem accounts_asked {Result : Type} {request : Service.Request Result}
    {respond : Result → Response} {ends : Result → World → Prop}
    (leaves : world.Leaves now request ends) (succeeds : ∀ result, (respond result).Success)
    (changes : ∀ result after, ends result after → accepted after) :
    (Handling.asked request respond).Accounts world now accepted := by
  cases leaves with
  | refused ran =>
      constructor
      · intro success
        simp only [carryOut, ran] at success
        exact absurd success (not_success_refused _)
      · intro _
        simp only [carryOut, ran]
  | accepted ran here =>
      constructor
      · intro _
        simp only [carryOut, ran]
        exact changes _ _ here
      · intro failed
        simp only [carryOut, ran] at failed
        exact absurd (succeeds _) failed

theorem accounts_withBody {Value : Type} {body : Except BodyFault Value}
    {handle : Value → Handling}
    (accounts : ∀ value, body = .ok value → (handle value).Accounts world now accepted) :
    (withBody body handle).Accounts world now accepted := by
  cases body with
  | ok value => exact accounts value rfl
  | error fault => exact accounts_answered (not_success_fault fault)

theorem accounts_withIdentifier {part : List Char} {handle : DocumentId → Handling}
    (accounts : ∀ id : DocumentId, identifier? part = some id.text →
      (handle id).Accounts world now accepted) :
    (withIdentifier part handle).Accounts world now accepted := by
  unfold withIdentifier
  cases found : identifier? part with
  | some text => exact accounts ⟨text⟩ found
  | none => exact accounts_answered (by decide)

end Rules

/-- What a successful action of a user changes. A creation adds one entry. A save changes
one entry of the user or adds one, and a deletion removes one of the user. Sending hands
over a mail, and nothing else does anything. -/
def Action.Effect (user : UserId) (fresh : DocumentId) (now : Time.Instant)
    (before after : World) : Action → Prop
  | .create =>
      ∃ document, before.Adds after fresh user now document
  | .save part =>
      ∃ id outcome, identifier? part = some id.text ∧
        Service.Saved id fresh user now now before after outcome
  | .delete part =>
      ∃ id entry, identifier? part = some id.text ∧ entry.owner = user ∧
        before.Rewrites after id (some entry) none
  | .send =>
      after.store = before.store ∧ after.faults = before.faults ∧
        ∃ mail, after.transport.sent = before.transport.sent ++ [mail]
  | .health | .list | .categories | .fetch _ | .preview _ => after = before

theorem handlingOf_accounts (service : Service) (world : World) (request : Request)
    (action : Action) (fresh : DocumentId) (now : Time.Instant) :
    (handlingOf service request action fresh now).Accounts world now fun after =>
      action.Effect request.requester fresh now world after := by
  have ok (value : Json) : (Response.json 200 value).Success := success_json (by decide) value
  unfold handlingOf
  cases action with
  | health =>
      constructor
      · intro _
        rfl
      · intro _
        rfl
  | list =>
      exact accounts_asked (Service.leaves_list _) (fun _ => ok _) fun _ _ same => same
  | create =>
      apply accounts_withBody
      intro input _
      apply accounts_asked (Service.leaves_create _ input fresh now)
      · exact fun _ => success_json (by decide) _
      · rintro id after ⟨_, document, added, _⟩
        exact ⟨document, added⟩
  | categories =>
      exact accounts_asked (Service.leaves_categories _) (fun _ => ok _) fun _ _ same => same
  | fetch part =>
      apply accounts_withIdentifier
      intro id _
      exact accounts_asked (Service.leaves_fetch id _) (fun _ => ok _) fun _ _ same => same
  | save part =>
      apply accounts_withIdentifier
      intro id named
      apply accounts_withBody
      intro patch _
      apply accounts_asked (Service.leaves_save id _ patch fresh now) (fun _ => ok _)
      intro outcome after saved
      exact ⟨id, outcome, named, saved⟩
  | delete part =>
      apply accounts_withIdentifier
      intro id named
      apply accounts_asked (Service.leaves_delete id _) (fun _ => ok _)
      rintro _ after ⟨entry, owned, removed⟩
      exact ⟨id, entry, named, owned, removed⟩
  | preview part =>
      apply accounts_withIdentifier
      intro id _
      apply accounts_asked (Service.leaves_preview service id _ _)
      · exact success_page
      · exact fun _ _ same => same
  | send =>
      apply accounts_withBody
      intro input _
      exact accounts_asked (Service.leaves_send service _ _ _ _) (fun _ => ok _)
        fun _ _ sent => sent

/-! ## Requests -/

section Requests

variable (service : Service) (world : World) (request : Request) (fresh : DocumentId)
  (now : Time.Instant)

theorem respond_world : (respond service world request fresh now).1 =
    (carryOut world now (handling service request fresh now)).1 := rfl

/-- Leaving the body out leaves the status as it is. -/
theorem respond_status : (respond service world request fresh now).2.status =
    (carryOut world now (handling service request fresh now)).2.status := by
  unfold respond
  dsimp only
  split <;> rfl

theorem respond_success : (respond service world request fresh now).2.Success ↔
    (carryOut world now (handling service request fresh now)).2.Success := by
  unfold Response.Success
  rw [respond_status]

theorem respond_of_none (nothing : request.action? = none) :
    (respond service world request fresh now).1 = world := by
  obtain ⟨response, answered⟩ := handling_of_none service nothing fresh now
  rw [respond_world, answered]
  rfl

theorem respond_effect {action : Action} (asked : request.action? = some action)
    (success : (respond service world request fresh now).2.Success) :
    action.Effect request.requester fresh now world
      (respond service world request fresh now).1 := by
  rw [respond_success, handling_eq service asked] at success
  rw [respond_world, handling_eq service asked]
  exact (handlingOf_accounts service world request action fresh now).success success

theorem respond_of_failure (failed : ¬(respond service world request fresh now).2.Success) :
    (respond service world request fresh now).1 = world := by
  cases asked : request.action? with
  | none => exact respond_of_none service world request fresh now asked
  | some action =>
      rw [respond_success, handling_eq service asked] at failed
      rw [respond_world, handling_eq service asked]
      exact (handlingOf_accounts service world request action fresh now).failure failed

theorem respond_of_effect {action : Action} (asked : request.action? = some action)
    (holds : World → Prop) (kept : holds world)
    (changed : ∀ after, action.Effect request.requester fresh now world after → holds after) :
    holds (respond service world request fresh now).1 := by
  by_cases success : (respond service world request fresh now).2.Success
  · exact changed _ (respond_effect service world request fresh now asked success)
  · rw [respond_of_failure service world request fresh now success]
    exact kept

end Requests

/-- Getting is asking for health, a listing, or one template. -/
theorem action_of_get {route : Route} {method : String} {action : Action}
    (gets : method = "GET" ∨ method = "HEAD") (asked : route.action? method = some action) :
    action = .health ∨ action = .list ∨ action = .categories ∨ ∃ part, action = .fetch part := by
  have get : (if method = "HEAD" then "GET" else method) = "GET" := by
    rcases gets with rfl | rfl <;> rfl
  unfold Route.action? at asked
  rw [get] at asked
  cases route with
  | health =>
      cases asked
      exact .inl rfl
  | templates =>
      cases asked
      exact .inr (.inl rfl)
  | categories =>
      cases asked
      exact .inr (.inr (.inl rfl))
  | template part =>
      cases asked
      exact .inr (.inr (.inr ⟨part, rfl⟩))
  | preview part => simp at asked
  | send => simp at asked

/-- Whatever is asked of whatever world: unless the status is in the two hundreds, the
world is as it was. Getting changes nothing at all, and neither does a preview; sending
leaves the store as it was. Otherwise a success has the effect of its action. -/
theorem response_accounts_for_changes (service : Service) (world : World)
    (request : Request) (fresh : DocumentId) (now : Time.Instant) :
    let after := (respond service world request fresh now).1
    let response := (respond service world request fresh now).2
    (¬response.Success → after = world) ∧
    (request.method = "GET" ∨ request.method = "HEAD" → after = world) ∧
    (∀ part, request.action? = some (.preview part) → after = world) ∧
    (request.action? = some .send → after.store = world.store) ∧
    (∀ action, request.action? = some action → response.Success →
      action.Effect request.requester fresh now world after) ∧
    (request.action? = none → after = world) := by
  intro after response
  refine ⟨?_, ?_, ?_, ?_, ?_, ?_⟩
  · exact respond_of_failure service world request fresh now
  · intro gets
    cases asked : request.action? with
    | none => exact respond_of_none service world request fresh now asked
    | some action =>
        apply respond_of_effect service world request fresh now asked
          (fun after => after = world) rfl
        intro after effect
        have routed := asked
        unfold Request.action? at routed
        split at routed
        · cases routed
        · obtain ⟨route, _, admitted⟩ := Option.bind_eq_some_iff.1 routed
          rcases action_of_get gets admitted with rfl | rfl | rfl | ⟨part, rfl⟩ <;>
            exact effect
  · intro part asked
    exact respond_of_effect service world request fresh now asked
      (fun after => after = world) rfl fun _ same => same
  · intro asked
    exact respond_of_effect service world request fresh now asked
      (fun after => after.store = world.store) rfl fun _ sent => sent.1
  · intro action asked
    exact respond_effect service world request fresh now asked
  · exact respond_of_none service world request fresh now

end BlockMail.Http
