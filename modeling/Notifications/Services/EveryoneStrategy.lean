import Notifications.Go.Values
import Notifications.Interaction.Program

/-!
# The Everyone strategy

`EveryoneStrategy.Dispatch` loads a UAA token for the request's zone, lists
every user GUID with it, and hands all users to the queue in one `Enqueue`
call whose options carry the fixed everyone endorsement.  A failure of the
token loader or of the GUID listing returns before the queue is called.
-/

namespace Notifications.Services

open Notifications.Go Notifications.Interaction

/-- `EveryoneEndorsement`. -/
def everyoneEndorsement : String := "This message was sent to everyone."

/--
The types `Dispatch` carries from its caller to the queue, or back, without
looking inside.  None is declared in the modelled files, so they are
parameters, with the zero values the code writes as `cf.CloudControllerSpace{}`
and `cf.CloudControllerOrganization{}`.
-/
structure ExternalTypes where
  Connection : Type
  Time : Type
  Space : Type
  Organization : Type
  Response : Type
  zeroSpace : Space
  zeroOrganization : Organization

/-! ## The request and the queue's arguments -/

structure DispatchHTML where
  bodyContent : String
  bodyAttributes : String
  head : String
  doctype : String
  deriving DecidableEq, Repr

structure DispatchMessage where
  replyTo : String
  subject : String
  toAddress : String
  text : String
  html : DispatchHTML
  deriving DecidableEq, Repr

structure DispatchKind where
  id : String
  description : String
  deriving DecidableEq, Repr

structure DispatchClient where
  id : String
  description : String
  deriving DecidableEq, Repr

structure DispatchVCAPRequest (T : ExternalTypes) where
  id : String
  receiptTime : T.Time

/-- The fields of a `Dispatch` request that the strategy reads. -/
structure Dispatch (T : ExternalTypes) where
  message : DispatchMessage
  kind : DispatchKind
  client : DispatchClient
  templateID : String
  uaaHost : String
  connection : T.Connection
  vcapRequest : DispatchVCAPRequest T

structure HTML where
  bodyContent : String
  bodyAttributes : String
  head : String
  doctype : String
  deriving DecidableEq, Repr

/-- The fields of `Options` the strategy sets. -/
structure Options where
  replyTo : String
  subject : String
  toAddress : String
  endorsement : String
  kindID : String
  kindDescription : String
  sourceDescription : String
  text : String
  templateID : String
  html : HTML
  deriving DecidableEq, Repr

structure User where
  guid : String
  deriving DecidableEq, Repr

/-- The arguments of `queue.Enqueue`, in the order of the call. -/
structure EnqueueArgs (T : ExternalTypes) where
  connection : T.Connection
  users : GoSlice User
  options : Options
  space : T.Space
  org : T.Organization
  clientID : String
  uaaHost : String
  scope : String
  vcapRequestID : String
  requestReceived : T.Time

/-- The methods the strategy calls on its three collaborators. -/
inductive StrategyCall (T : ExternalTypes)
  | load (uaaHost : String)
  | allUserGUIDs (token : String)
  | enqueue (args : EnqueueArgs T)

/-- The Go result type of each method. -/
def StrategyCall.Answer {T : ExternalTypes} : StrategyCall T → Type
  | .load _ => String × Option GoError
  | .allUserGUIDs _ => GoSlice String × Option GoError
  | .enqueue _ => GoSlice T.Response

abbrev StrategyProgram (T : ExternalTypes) := Program (StrategyCall T) StrategyCall.Answer

/-! ## `Dispatch` -/

variable {T : ExternalTypes} {σ : Type}

/-- The `Options` literal at the top of `Dispatch`. -/
def everyoneOptions (dispatch : Dispatch T) : Options where
  replyTo := dispatch.message.replyTo
  subject := dispatch.message.subject
  toAddress := dispatch.message.toAddress
  endorsement := everyoneEndorsement
  kindID := dispatch.kind.id
  kindDescription := dispatch.kind.description
  sourceDescription := dispatch.client.description
  text := dispatch.message.text
  templateID := dispatch.templateID
  html :=
    { bodyContent := dispatch.message.html.bodyContent
      bodyAttributes := dispatch.message.html.bodyAttributes
      head := dispatch.message.html.head
      doctype := dispatch.message.html.doctype }

/-- The arguments of the one `queue.Enqueue` call of `Dispatch`. -/
def everyoneEnqueueArgs (dispatch : Dispatch T) (users : GoSlice User) (options : Options) :
    EnqueueArgs T :=
  ⟨dispatch.connection, users, options, T.zeroSpace, T.zeroOrganization, dispatch.client.id,
    dispatch.uaaHost, "", dispatch.vcapRequest.id, dispatch.vcapRequest.receiptTime⟩

/-- The body of `EveryoneStrategy.Dispatch`. -/
def dispatchBody (dispatch : Dispatch T) :
    StrategyProgram T (GoSlice T.Response × Option GoError) := do
  let responses : GoSlice T.Response := GoSlice.empty
  let options := everyoneOptions dispatch
  let (token, err) ← Program.perform (StrategyCall.load dispatch.uaaHost : StrategyCall T)
  if let some err := err then return (responses, some err)
  let (userGUIDs, err) ← Program.perform (StrategyCall.allUserGUIDs token : StrategyCall T)
  if let some err := err then return (responses, some err)
  let users := GoSlice.nil.appendEach User.mk userGUIDs.items
  let responses ← Program.perform
    (StrategyCall.enqueue (everyoneEnqueueArgs dispatch users options))
  return (responses, none)

/-- `EveryoneStrategy`: the token loader, the GUID getter and the queue, each a
method over the state `σ` of the objects behind the interfaces. -/
structure EveryoneStrategy (T : ExternalTypes) (σ : Type) where
  tokenLoader : String → σ → (String × Option GoError) × σ
  allUsers : String → σ → (GoSlice String × Option GoError) × σ
  queue : EnqueueArgs T → σ → GoSlice T.Response × σ

namespace EveryoneStrategy

def collaborators (strategy : EveryoneStrategy T σ) :
    Collaborators (StrategyCall T) StrategyCall.Answer σ where
  respond
    | .load uaaHost => strategy.tokenLoader uaaHost
    | .allUserGUIDs token => strategy.allUsers token
    | .enqueue args => strategy.queue args

/-- `strategy.Dispatch(dispatch)`, started from the collaborators' state `state`. -/
def dispatch (strategy : EveryoneStrategy T σ) (request : Dispatch T) (state : σ) :
    Outcome (StrategyCall T) σ (GoSlice T.Response × Option GoError) :=
  (dispatchBody request).run strategy.collaborators state

variable (strategy : EveryoneStrategy T σ) (request : Dispatch T)

/-- A token-load error is returned with `[]Response{}` after the one `Load` call. -/
theorem dispatch_of_load_error {state : σ} {token : String} {err : GoError} {loaded : σ}
    (load : strategy.tokenLoader request.uaaHost state = ((token, some err), loaded)) :
    strategy.dispatch request state =
      ⟨(GoSlice.empty, some err), [.load request.uaaHost], loaded⟩ := by
  simp [dispatch, dispatchBody, collaborators, load]

/-- A GUID-listing error is returned with `[]Response{}` before the queue is called. -/
theorem dispatch_of_list_error {state : σ} {token : String} {userGUIDs : GoSlice String}
    {err : GoError} {loaded listed : σ}
    (load : strategy.tokenLoader request.uaaHost state = ((token, none), loaded))
    (list : strategy.allUsers token loaded = ((userGUIDs, some err), listed)) :
    strategy.dispatch request state =
      ⟨(GoSlice.empty, some err), [.load request.uaaHost, .allUserGUIDs token], listed⟩ := by
  simp [dispatch, dispatchBody, collaborators, load, list]

/-- With a token and a GUID list, the queue is called once and its answer returned. -/
theorem dispatch_of_listed {state : σ} {token : String} {userGUIDs : GoSlice String}
    {loaded listed : σ}
    (load : strategy.tokenLoader request.uaaHost state = ((token, none), loaded))
    (list : strategy.allUsers token loaded = ((userGUIDs, none), listed)) :
    let args := everyoneEnqueueArgs request (GoSlice.nil.appendEach User.mk userGUIDs.items)
      (everyoneOptions request)
    strategy.dispatch request state =
      ⟨((strategy.queue args listed).1, none),
        [.load request.uaaHost, .allUserGUIDs token, .enqueue args],
        (strategy.queue args listed).2⟩ := by
  simp [dispatch, dispatchBody, collaborators, load, list]

/--
Every run of `Dispatch`, whatever its collaborators answer: a failed token load
or GUID listing is returned with `[]Response{}` and the queue is never called;
otherwise the queue is called once, with one `User` per listed GUID in order
(`nil` when there is none) and the options built from the request alone, each field
of the `Options` literal set as the Go code sets it, and its responses are returned.
-/
theorem dispatch_enqueues_every_user_or_nothing (state : σ) :
    (∀ token err loaded,
      strategy.tokenLoader request.uaaHost state = ((token, some err), loaded) →
        (strategy.dispatch request state).value = (GoSlice.empty, some err) ∧
        (strategy.dispatch request state).calls = [.load request.uaaHost]) ∧
    (∀ token loaded userGUIDs err listed,
      strategy.tokenLoader request.uaaHost state = ((token, none), loaded) →
      strategy.allUsers token loaded = ((userGUIDs, some err), listed) →
        (strategy.dispatch request state).value = (GoSlice.empty, some err) ∧
        (strategy.dispatch request state).calls = [.load request.uaaHost, .allUserGUIDs token]) ∧
    (∀ token loaded userGUIDs listed,
      strategy.tokenLoader request.uaaHost state = ((token, none), loaded) →
      strategy.allUsers token loaded = ((userGUIDs, none), listed) →
      ∃ args : EnqueueArgs T,
        (strategy.dispatch request state).calls =
          [.load request.uaaHost, .allUserGUIDs token, .enqueue args] ∧
        args.users.items = userGUIDs.items.map User.mk ∧
        args.users.isNil = userGUIDs.items.isEmpty ∧
        args.options.replyTo = request.message.replyTo ∧
        args.options.subject = request.message.subject ∧
        args.options.toAddress = request.message.toAddress ∧
        args.options.endorsement = everyoneEndorsement ∧
        args.options.kindID = request.kind.id ∧
        args.options.kindDescription = request.kind.description ∧
        args.options.sourceDescription = request.client.description ∧
        args.options.text = request.message.text ∧
        args.options.templateID = request.templateID ∧
        args.options.html.bodyContent = request.message.html.bodyContent ∧
        args.options.html.bodyAttributes = request.message.html.bodyAttributes ∧
        args.options.html.head = request.message.html.head ∧
        args.options.html.doctype = request.message.html.doctype ∧
        args.clientID = request.client.id ∧
        (strategy.dispatch request state).value = ((strategy.queue args listed).1, none)) := by
  refine ⟨fun token err loaded load => ?_, fun token loaded userGUIDs err listed load list => ?_,
    fun token loaded userGUIDs listed load list => ?_⟩
  · simp [dispatch_of_load_error strategy request load]
  · simp [dispatch_of_list_error strategy request load list]
  · simp [dispatch_of_listed strategy request load list, everyoneEnqueueArgs, everyoneOptions]

/--
A queue that answers every `Enqueue` with one response per user makes `Dispatch`
answer with one response per listed GUID, repeated GUIDs and an empty list included.
-/
theorem dispatch_responds_once_per_guid {state loaded listed : σ} {token : String}
    {userGUIDs : GoSlice String}
    (perUser : ∀ args current, (strategy.queue args current).1.items.length = args.users.items.length)
    (load : strategy.tokenLoader request.uaaHost state = ((token, none), loaded))
    (list : strategy.allUsers token loaded = ((userGUIDs, none), listed)) :
    (strategy.dispatch request state).value.1.items.length = userGUIDs.items.length := by
  simp [dispatch_of_listed strategy request load list, perUser, everyoneEnqueueArgs]

end EveryoneStrategy

/-- Unit connections, times, spaces and organizations, with string responses. -/
def unitExternalTypes : ExternalTypes := ⟨Unit, Unit, Unit, Unit, String, (), ()⟩

/-- A request with empty texts. -/
def emptyDispatch : Dispatch unitExternalTypes :=
  ⟨⟨"", "", "", "", ⟨"", "", "", ""⟩⟩, ⟨"", ""⟩, ⟨"", ""⟩, "", "", (), ⟨"", ()⟩⟩

/-- Collaborators that list a GUID twice and answer `Enqueue` with one response per user. -/
def echoingStrategy : EveryoneStrategy unitExternalTypes Unit where
  tokenLoader _ state := (("token", none), state)
  allUsers _ state := ((⟨["user-a", "user-b", "user-a"], false, nofun⟩, none), state)
  queue args state := (⟨args.users.items.map User.guid, false, nofun⟩, state)

theorem dispatch_responds_once_per_repeated_guid :
    (echoingStrategy.dispatch emptyDispatch ()).value.1.items.length = 3 :=
  EveryoneStrategy.dispatch_responds_once_per_guid echoingStrategy emptyDispatch
    (fun _ _ => List.length_map _ _) rfl rfl

end Notifications.Services
