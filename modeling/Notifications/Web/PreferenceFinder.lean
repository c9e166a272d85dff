import Notifications.Go.Values
import Notifications.Go.Strings
import Notifications.Interaction.Program

/-!
# The preference finder handler

`PreferenceFinder.ServeHTTP` reads the user id from the bearer token's
`user_id` claim, asks the preference service for that user's preferences and
writes them as JSON.  `HasScope` looks a scope up in a decoded claim.  The JWT
library, the preference service, `json.Marshal` and the response writers are
collaborators; the handler's type assertions panic on values of another type.
-/

namespace Notifications.Web

open Notifications.Go Notifications.Interaction

/-! ## `HasScope` -/

/-- The loop of `HasScope`: assert each element to a string, stop at `key`. -/
def scopeLoop (key : String) : List JsonValue → Except GoPanic Bool
  | [] => .ok false
  | elem :: rest =>
      match elem.asString with
      | .error panic => .error panic
      | .ok scope => if scope = key then .ok true else scopeLoop key rest

/-- `PreferenceFinder.HasScope(elements, key)`. -/
def hasScope (elements : JsonValue) (key : String) : Except GoPanic Bool :=
  match elements.asArray with
  | .error panic => .error panic
  | .ok elems => scopeLoop key elems

theorem scopeLoop_strings_append (key : String) (before : List String) (rest : List JsonValue) :
    scopeLoop key (before.map .string ++ rest) =
      if key ∈ before then .ok true else scopeLoop key rest := by
  induction before with
  | nil => simp
  | cons scope before ih =>
      by_cases same : scope = key
      · simp [scopeLoop, JsonValue.asString, same]
      · simp [scopeLoop, JsonValue.asString, same, ih, Ne.symm same]

/-- The loop returns `true` at the first `key` when only strings come before it, and
`false` when every element is a string other than `key`. -/
theorem scopeLoop_eq_ok_iff (key : String) (elems : List JsonValue) (found : Bool) :
    scopeLoop key elems = .ok found ↔
      (found = true ∧ ∃ (before : List String) (after : List JsonValue),
        elems = before.map .string ++ .string key :: after ∧ key ∉ before) ∨
      (found = false ∧ ∃ scopes : List String, elems = scopes.map .string ∧ key ∉ scopes) := by
  constructor
  · intro loop
    induction elems with
    | nil =>
        cases loop
        exact .inr ⟨rfl, [], rfl, List.not_mem_nil key⟩
    | cons elem rest ih =>
        cases elem with
        | string scope =>
            by_cases same : scope = key
            · subst same
              simp only [scopeLoop, JsonValue.asString, if_true] at loop
              cases loop
              exact .inl ⟨rfl, [], rest, rfl, List.not_mem_nil _⟩
            · simp only [scopeLoop, JsonValue.asString, same, if_false] at loop
              rcases ih loop with ⟨rfl, before, after, rfl, clear⟩ | ⟨rfl, scopes, rfl, clear⟩
              · exact .inl ⟨rfl, scope :: before, after, rfl, by simp [clear, Ne.symm same]⟩
              · exact .inr ⟨rfl, scope :: scopes, rfl, by simp [clear, Ne.symm same]⟩
        | _ => simp [scopeLoop, JsonValue.asString] at loop
  · rintro (⟨rfl, before, after, rfl, clear⟩ | ⟨rfl, scopes, rfl, clear⟩)
    · rw [scopeLoop_strings_append, if_neg clear]
      simp [scopeLoop, JsonValue.asString]
    · simpa [clear, scopeLoop] using scopeLoop_strings_append key scopes []

/-- On a claim that is an array of strings, `HasScope` is membership. -/
theorem hasScope_strings (scopes : List String) (key : String) :
    hasScope (.array (scopes.map .string)) key = .ok (decide (key ∈ scopes)) := by
  have loop := scopeLoop_strings_append key scopes []
  by_cases mem : key ∈ scopes <;> simp_all [hasScope, JsonValue.asArray, scopeLoop]

/-- The loop panics exactly at the first element that is not a string, if `key` is not before it. -/
theorem scopeLoop_panics_iff (key : String) (elems : List JsonValue) (panic : GoPanic) :
    scopeLoop key elems = .error panic ↔
      ∃ (before : List String) (other : JsonValue) (after : List JsonValue),
        elems = before.map .string ++ other :: after ∧ key ∉ before ∧
        (∀ scope, other ≠ .string scope) ∧
        panic = .interfaceConversion other.goTypeName "string" := by
  constructor
  · intro loop
    induction elems with
    | nil => simp [scopeLoop] at loop
    | cons elem rest ih =>
        cases elem with
        | string scope =>
            by_cases same : scope = key
            · simp [scopeLoop, JsonValue.asString, same] at loop
            · simp only [scopeLoop, JsonValue.asString, same, if_false] at loop
              obtain ⟨before, other, after, split, notMem, nonString, named⟩ := ih loop
              exact ⟨scope :: before, other, after, by simp [split], by simp [notMem, Ne.symm same],
                nonString, named⟩
        | _ =>
            exact ⟨[], _, rest, rfl, List.not_mem_nil key, by simp,
              by simpa [scopeLoop, JsonValue.asString] using loop.symm⟩
  · rintro ⟨before, other, after, rfl, notMem, nonString, rfl⟩
    rw [scopeLoop_strings_append, if_neg notMem]
    cases other with
    | string scope => exact absurd rfl (nonString scope)
    | _ => rfl

/--
`HasScope` panics exactly when `elements` is not an array, or when an element
that is not a string comes before every occurrence of `key`; the panic then
names that element's dynamic type.
-/
theorem hasScope_panics_iff (elements : JsonValue) (key : String) (panic : GoPanic) :
    hasScope elements key = .error panic ↔
      elements.asArray = .error panic ∨
      ∃ (before : List String) (other : JsonValue) (after : List JsonValue),
        elements = .array (before.map .string ++ other :: after) ∧ key ∉ before ∧
        (∀ scope, other ≠ .string scope) ∧
        panic = .interfaceConversion other.goTypeName "string" := by
  cases elements with
  | array elems => simp [hasScope, JsonValue.asArray, scopeLoop_panics_iff]
  | _ => simp [hasScope, JsonValue.asArray]

example : hasScope (.array [.string "openid", .number 7, .string "scim.me"]) "scim.me" =
    .error (.interfaceConversion "float64" "string") := rfl

/--
`HasScope` returns `true` exactly when `elements` is an array in which `key` occurs
and only strings come before its first occurrence, whatever follows it; it returns
`false` exactly when `elements` is an array of strings none of which is `key`.
-/
theorem hasScope_eq_ok_iff (elements : JsonValue) (key : String) (found : Bool) :
    hasScope elements key = .ok found ↔
      (found = true ∧ ∃ (before : List String) (after : List JsonValue),
        elements = .array (before.map .string ++ .string key :: after) ∧ key ∉ before) ∨
      (found = false ∧ ∃ scopes : List String,
        elements = .array (scopes.map .string) ∧ key ∉ scopes) := by
  cases elements with
  | array elems => simp [hasScope, JsonValue.asArray, scopeLoop_eq_ok_iff]
  | _ => simp [hasScope, JsonValue.asArray]

example : hasScope (.array [.string "openid", .number 7]) "openid" = .ok true := rfl

/-! ## `ServeHTTP` -/

/-- The part of an `*http.Request` the handler reads: `req.Header.Get`, `""` when absent. -/
structure Request where
  header : String → String

/-- A token returned by `jwt.Parse`; a missing claim reads as `nil`. -/
structure JwtToken where
  claims : String → JsonValue

/-- The calls `ServeHTTP` makes, `Preferences` being what the preference service returns. -/
inductive FinderCall (Preferences : Type)
  /-- `jwt.Parse(rawToken, keyFunc)`. -/
  | jwtParse (rawToken : String)
  /-- `handler.Preference.Execute(userID)`. -/
  | execute (userID : String)
  /-- `NewErrorWriter().Write(w, err)`. -/
  | writeError (err : GoError)
  /-- `json.Marshal(parsed)`. -/
  | marshal (parsed : Preferences)
  /-- `w.Write(result)`. -/
  | write (body : List UInt8)

variable {P σ : Type}

/-- The Go result type of each call; `nil` is `none`.  The error writer writes the
error's response and answers `none`, or panics and answers its panic: the repository's
`ErrorWriter` panics on an error it does not recognise. -/
def FinderCall.Answer : FinderCall P → Type
  | .jwtParse _ => Option JwtToken × Option GoError
  | .execute _ => P × Option GoError
  | .writeError _ => Option GoPanic
  | .marshal _ => List UInt8 × Option GoError
  | .write _ => Nat × Option GoError

/-- The calls that write a response. -/
def FinderCall.responds : FinderCall P → Bool
  | .writeError _ | .write _ => true
  | _ => false

abbrev FinderProgram (P : Type) := Program (FinderCall P) FinderCall.Answer

/-- `token.Claims["user_id"].(string)`, read before `err` is looked at. -/
def userIDClaim : Option JwtToken → Except GoPanic String
  | none => .error .nilDereference
  | some token => (token.claims "user_id").asString

/-- `PreferenceFinder.ParseUserID(rawToken)`. -/
def parseUserID (rawToken : String) : FinderProgram P (Except GoPanic (String × Option GoError)) := do
  let (token, err) ← Program.perform (FinderCall.jwtParse rawToken : FinderCall P)
  return (userIDClaim token).map fun userID => (userID, err)

/-- `PreferenceFinder.ServeHTTP(w, req)`; a panic ends the handler. -/
def serveHTTP (request : Request) : FinderProgram P (Except GoPanic Unit) := do
  match ← parseUserID (trimPrefix (request.header "Authorization") "Bearer ") with
  | .error panic => return .error panic
  | .ok (_, some err) =>
      if let some panic ← Program.perform (FinderCall.writeError err : FinderCall P) then
        return .error panic
      return .ok ()
  | .ok (userID, none) =>
      let (parsed, err) ← Program.perform (FinderCall.execute userID : FinderCall P)
      if let some err := err then
        if let some panic ← Program.perform (FinderCall.writeError err : FinderCall P) then
          return .error panic
        return .ok ()
      let (result, err) ← Program.perform (FinderCall.marshal parsed)
      if let some err := err then return .error (.error err)
      let _ ← Program.perform (FinderCall.write result : FinderCall P)
      return .ok ()

/-- On every path, a normal return follows exactly one response, written last.  A panic
follows no response, or is the error writer's, raised by the last call and the only one
that responds. -/
theorem serveHTTP_always_responds_once (request : Request) :
    (serveHTTP (P := P) request).Always fun value calls =>
      (value = .ok () → calls.countP FinderCall.responds = 1 ∧
        calls.getLast?.map FinderCall.responds = some true) ∧
      (∀ panic, value = .error panic → calls.countP FinderCall.responds = 0 ∨
        ∃ err, calls.getLast? = some (.writeError err) ∧ calls.countP FinderCall.responds = 1) := by
  simp only [serveHTTP, parseUserID, Program.bind_eq, Program.perform_bind, Program.pure_eq,
    Program.call_bind, Program.pure_bind, Program.always_call]
  rintro ⟨token, err⟩
  rcases claim : userIDClaim token with panic | userID <;>
    simp only [claim, Except.map, Program.pure_bind]
  · exact ⟨nofun, fun _ _ => .inl rfl⟩
  · rcases err with _ | err <;> simp only [Program.always_call]
    · rintro ⟨parsed, _ | err⟩
      · rintro ⟨result, _ | err⟩
        · exact fun _ => ⟨fun _ => ⟨rfl, rfl⟩, nofun⟩
        · exact ⟨nofun, fun _ _ => .inl rfl⟩
      · rintro (_ | panic)
        · exact ⟨fun _ => ⟨rfl, rfl⟩, nofun⟩
        · exact ⟨nofun, fun _ _ => .inr ⟨_, rfl, rfl⟩⟩
    · rintro (_ | panic)
      · exact ⟨fun _ => ⟨rfl, rfl⟩, nofun⟩
      · exact ⟨nofun, fun _ _ => .inr ⟨_, rfl, rfl⟩⟩

variable (collaborators : Collaborators (FinderCall P) FinderCall.Answer σ) (request : Request)

/-- Collaborators as in the handler's database-error test: the token is `correct-user`'s,
the preference service fails, and the error writer panics on that error, which it does
not recognise. -/
def databaseErrorFinder : Collaborators (FinderCall String) FinderCall.Answer Unit where
  respond
    | .jwtParse _ => fun state =>
        ((some ⟨fun claim => if claim = "user_id" then .string "correct-user" else .null⟩, none),
          state)
    | .execute _ => fun state => (("", some ⟨"database error"⟩), state)
    | .writeError err => fun state => (some (.error err), state)
    | .marshal _ => fun state => (([123, 125], none), state)
    | .write body => fun state => ((body.length, none), state)

end Notifications.Web
