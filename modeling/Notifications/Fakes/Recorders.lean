import Notifications.Go.Values

/-!
# The recording fakes

`fakes.CampaignTypesRepository` and `fakes.StrategyDeterminer` stand in for a
repository and a strategy determiner in tests: they answer with values the
test configured and remember the arguments of the last call of each method.
Each is a state machine over its own struct, and a run is the list of calls a
test makes.
-/

namespace Notifications.Fakes

open Notifications.Go

/-- A field that each step either overwrites or leaves alone ends a run holding the
last value written, or the value it had before the run. -/
theorem foldl_last_write {σ ι β : Type} (step : σ → ι → σ) (get : σ → β)
    (written : ι → Option β)
    (writes : ∀ state call, get (step state call) = (written call).getD (get state))
    (state : σ) (calls : List ι) :
    get (calls.foldl step state) = ((calls.filterMap written).getLast?).getD (get state) := by
  induction calls using List.reverseRecOn with
  | nil => rfl
  | append_singleton calls call ih =>
      rw [List.foldl_append, List.foldl_cons, List.foldl_nil, writes, ih, List.filterMap_append]
      cases h : written call <;> simp [h]

/-- The types the fakes hold without looking inside, with the zero values Go gives them. -/
structure FakeTypes where
  Connection : Type
  CampaignType : Type
  Job : Type
  zeroCampaignType : CampaignType
  zeroJob : Job

variable {T : FakeTypes}

/-! ## `CampaignTypesRepository` -/

structure InsertCall (T : FakeTypes) where
  connection : Option T.Connection
  campaignType : T.CampaignType
  returnCampaignType : T.CampaignType
  err : Option GoError

structure ListCall (T : FakeTypes) where
  connection : Option T.Connection
  returnCampaignTypeList : GoSlice T.CampaignType
  err : Option GoError

structure GetCall (T : FakeTypes) where
  connection : Option T.Connection
  campaignTypeID : String

structure GetReturn (T : FakeTypes) where
  campaignType : T.CampaignType
  err : Option GoError

/-- `fakes.CampaignTypesRepository`; a `nil` connection is `none`. -/
structure CampaignTypesRepository (T : FakeTypes) where
  insertCall : InsertCall T
  listCall : ListCall T
  getCall : GetCall T
  getReturn : GetReturn T

/-- `NewCampaignTypesRepository()`: every field at its zero value. -/
def newCampaignTypesRepository : CampaignTypesRepository T :=
  ⟨⟨none, T.zeroCampaignType, T.zeroCampaignType, none⟩, ⟨none, GoSlice.nil, none⟩, ⟨none, ""⟩,
    ⟨T.zeroCampaignType, none⟩⟩

/-- The repository methods the fake implements. -/
inductive RepositoryCall (T : FakeTypes)
  | insert (conn : Option T.Connection) (campaignType : T.CampaignType)
  | getBySenderIDAndName (conn : Option T.Connection) (senderID name : String)
  | list (conn : Option T.Connection) (senderID : String)
  | get (conn : Option T.Connection) (campaignTypeID : String)

def RepositoryCall.Answer : RepositoryCall T → Type
  | .list .. => GoSlice T.CampaignType × Option GoError
  | _ => T.CampaignType × Option GoError

namespace CampaignTypesRepository

/-- The fake's methods: each records its arguments and returns what the test set. -/
def respond : (call : RepositoryCall T) → CampaignTypesRepository T →
    call.Answer × CampaignTypesRepository T
  | .insert conn campaignType, n =>
      ((n.insertCall.returnCampaignType, n.insertCall.err),
        { n with insertCall := { n.insertCall with campaignType, connection := conn } })
  | .getBySenderIDAndName .., n => ((T.zeroCampaignType, none), n)
  | .list conn _, n =>
      ((n.listCall.returnCampaignTypeList, n.listCall.err),
        { n with listCall := { n.listCall with connection := conn } })
  | .get conn campaignTypeID, n =>
      ((n.getReturn.campaignType, n.getReturn.err),
        { n with getCall := { connection := conn, campaignTypeID } })

/-- The state after a test's calls. -/
def runCalls (n : CampaignTypesRepository T) (calls : List (RepositoryCall T)) :
    CampaignTypesRepository T :=
  calls.foldl (fun state call => (respond call state).2) n

/-- What the test configured: the values the fake answers with. -/
def configured (n : CampaignTypesRepository T) :
    T.CampaignType × Option GoError × GoSlice T.CampaignType × Option GoError × GetReturn T :=
  (n.insertCall.returnCampaignType, n.insertCall.err, n.listCall.returnCampaignTypeList,
    n.listCall.err, n.getReturn)

/-- The answer to a call is read from the configuration alone. -/
def answerOf (n : CampaignTypesRepository T) : (call : RepositoryCall T) → call.Answer
  | .insert .. => (n.insertCall.returnCampaignType, n.insertCall.err)
  | .getBySenderIDAndName .. => (T.zeroCampaignType, none)
  | .list .. => (n.listCall.returnCampaignTypeList, n.listCall.err)
  | .get .. => (n.getReturn.campaignType, n.getReturn.err)

theorem respond_answer (call : RepositoryCall T) (n : CampaignTypesRepository T) :
    (respond call n).1 = answerOf n call := by
  cases call <;> rfl

theorem respond_configured (call : RepositoryCall T) (n : CampaignTypesRepository T) :
    (respond call n).2.configured = n.configured := by
  cases call <;> rfl

theorem runCalls_configured (n : CampaignTypesRepository T) (calls : List (RepositoryCall T)) :
    (n.runCalls calls).configured = n.configured := by
  induction calls generalizing n with
  | nil => rfl
  | cons call rest ih => exact (ih _).trans (respond_configured call n)

theorem answerOf_eq_of_configured {n m : CampaignTypesRepository T}
    (same : n.configured = m.configured) (call : RepositoryCall T) :
    answerOf n call = answerOf m call := by
  simp only [configured, Prod.mk.injEq] at same
  obtain ⟨insertReturn, insertErr, listReturn, listErr, getReturn⟩ := same
  cases call <;> simp [answerOf, insertReturn, insertErr, listReturn, listErr, getReturn]

/-- Whatever calls came before, the fake answers each call with what the test
configured before the run. -/
theorem runCalls_answers_as_configured (n : CampaignTypesRepository T)
    (calls : List (RepositoryCall T)) (call : RepositoryCall T) :
    (respond call (n.runCalls calls)).1 = answerOf n call := by
  rw [respond_answer, answerOf_eq_of_configured (runCalls_configured n calls)]

end CampaignTypesRepository

/-- The arguments `Insert` records. -/
def RepositoryCall.insertArgs : RepositoryCall T → Option (Option T.Connection × T.CampaignType)
  | .insert conn campaignType => some (conn, campaignType)
  | _ => none

/-- The connection `List` records. -/
def RepositoryCall.listConnection : RepositoryCall T → Option (Option T.Connection)
  | .list conn _ => some conn
  | _ => none

/-- The arguments `Get` records. -/
def RepositoryCall.getArgs : RepositoryCall T → Option (GetCall T)
  | .get conn campaignTypeID => some ⟨conn, campaignTypeID⟩
  | _ => none

namespace CampaignTypesRepository

/-- After any run the fake holds the arguments of the last `Insert`, the last
`List` and the last `Get`, or what it held before when there was none. -/
theorem runCalls_records_last_arguments (n : CampaignTypesRepository T)
    (calls : List (RepositoryCall T)) :
    ((n.runCalls calls).insertCall.connection, (n.runCalls calls).insertCall.campaignType) =
        ((calls.filterMap RepositoryCall.insertArgs).getLast?).getD
          (n.insertCall.connection, n.insertCall.campaignType) ∧
      (n.runCalls calls).listCall.connection =
        ((calls.filterMap RepositoryCall.listConnection).getLast?).getD n.listCall.connection ∧
      (n.runCalls calls).getCall =
        ((calls.filterMap RepositoryCall.getArgs).getLast?).getD n.getCall :=
  ⟨foldl_last_write _ (fun n => (n.insertCall.connection, n.insertCall.campaignType)) _
      (fun _ call => by cases call <;> rfl) n calls,
    foldl_last_write _ (fun n => n.listCall.connection) _ (fun _ call => by cases call <;> rfl) n calls,
    foldl_last_write _ getCall _ (fun _ call => by cases call <;> rfl) n calls⟩

end CampaignTypesRepository

/-! ## `StrategyDeterminer` -/

structure DetermineReceives (T : FakeTypes) where
  connection : Option T.Connection
  uaaHost : String
  job : T.Job

structure DetermineCall (T : FakeTypes) where
  receives : DetermineReceives T
  wasCalled : Bool

/-- `fakes.StrategyDeterminer`. -/
structure StrategyDeterminer (T : FakeTypes) where
  determineCall : DetermineCall T

/-- `NewStrategyDeterminer()`. -/
def newStrategyDeterminer : StrategyDeterminer T := ⟨⟨⟨none, "", T.zeroJob⟩, false⟩⟩

namespace StrategyDeterminer

/-- `Determine(conn, uaaHost, job)`. -/
def determine (s : StrategyDeterminer T) (conn : Option T.Connection) (uaaHost : String)
    (job : T.Job) : StrategyDeterminer T :=
  { s with determineCall := ⟨⟨conn, uaaHost, job⟩, true⟩ }

/-- The state after a test's `Determine` calls, given by their arguments. -/
def runCalls (s : StrategyDeterminer T) (calls : List (DetermineReceives T)) :
    StrategyDeterminer T :=
  calls.foldl (fun state call => state.determine call.connection call.uaaHost call.job) s

/-- After any run, `WasCalled` says whether the run or an earlier one called
`Determine`, and `Receives` holds the last call's arguments. -/
theorem runCalls_records_last_determine (s : StrategyDeterminer T)
    (calls : List (DetermineReceives T)) :
    (s.runCalls calls).determineCall.wasCalled = (s.determineCall.wasCalled || !calls.isEmpty) ∧
      (s.runCalls calls).determineCall.receives = calls.getLast?.getD s.determineCall.receives := by
  refine ⟨?_, ?_⟩
  · induction calls generalizing s with
    | nil => simp [runCalls]
    | cons call rest ih =>
        simpa [runCalls] using ih (s.determine call.connection call.uaaHost call.job)
  · have last := foldl_last_write
      (fun (state : StrategyDeterminer T) (call : DetermineReceives T) =>
        state.determine call.connection call.uaaHost call.job)
      (fun s => s.determineCall.receives) some (fun _ _ => rfl) s calls
    simpa [runCalls] using last

end StrategyDeterminer

end Notifications.Fakes
