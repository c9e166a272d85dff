import Mathlib.Data.List.Forall2
import Mathlib.Data.List.Nodup
import Mathlib.Data.List.Perm.Basic
import Notifications.Go.Values
import Notifications.Go.Strings

/-!
# The router

`NewRouter` maps `"METHOD /path"` keys to handler stacks; `Routes` ranges over
that map, in whatever order Go yields its entries, splits each key at its
first space and asks the `mux.Router` to handle the path after it with the
stack, for the method before it, under the key as name.  A key without a space
makes `parts[1]` panic.  What mux makes of a registration is library code and
stays outside the model: it gives a route whose path lacks a leading `/` an
error in place of a handler, methods and a name, and it upper-cases methods.
-/

namespace Notifications.Web

open Notifications.Go

/-- The handlers `NewRouter` builds, named by their constructors. -/
inductive Handler
  | getInfo
  | notifyUser
  | notifySpace
  | registration
  | preferenceFinder
  | updatePreferences
  deriving DecidableEq, Repr

/-- The middleware `Mother` hands out. -/
inductive Middleware
  /-- `mother.Logging()`. -/
  | logging
  /-- `mother.Authenticator(scopes)`: requests need a token with these scopes. -/
  | authenticator (scopes : List String)
  deriving DecidableEq, Repr

/-- `stack.NewStack(handler).Use(middleware...)`. -/
structure Stack where
  handler : Handler
  middleware : List Middleware
  deriving DecidableEq, Repr

/-- A `Router`: its map from keys to stacks, whose keys are distinct as a Go map's are. -/
structure Router where
  stackMap : List (String × Stack)
  keys_nodup : (stackMap.map Prod.fst).Nodup

/-- `NewRouter(mother)`. -/
def newRouter : Router where
  stackMap :=
    [("GET /info", ⟨.getInfo, [.logging]⟩),
     ("POST /users/{guid}", ⟨.notifyUser, [.logging, .authenticator ["notifications.write"]]⟩),
     ("POST /spaces/{guid}", ⟨.notifySpace, [.logging, .authenticator ["notifications.write"]]⟩),
     ("PUT /registration", ⟨.registration, [.logging, .authenticator ["notifications.write"]]⟩),
     ("GET /user_preferences",
       ⟨.preferenceFinder, [.logging, .authenticator ["notification_preferences.read"]]⟩),
     ("PATCH /user_preferences",
       ⟨.updatePreferences, [.logging, .authenticator ["notification_preferences.write"]]⟩)]
  keys_nodup := by decide

/-- What one iteration of `Routes` asks of the `mux.Router`:
`r.Handle(path, stack).Methods(method).Name(name)`, with the arguments as given. -/
structure Registration where
  path : String
  stack : Stack
  method : String
  name : String
  deriving DecidableEq, Repr

/-- One iteration of `Routes`: split the key and register the stack under its parts. -/
def register (methodPath : String) (stack : Stack) : Except GoPanic Registration :=
  match splitN methodPath ' ' with
  | method :: path :: _ => .ok ⟨path, stack, method, methodPath⟩
  | parts => .error (.indexOutOfRange 1 parts.length)

/-- `router.Routes()`, over the map's entries in the order `range` yields them: the
registrations it makes, in order, or the panic that stops it. -/
def routes : List (String × Stack) → Except GoPanic (List Registration)
  | [] => .ok []
  | (methodPath, stack) :: rest =>
      match register methodPath stack with
      | .error panic => .error panic
      | .ok registration => (routes rest).map (registration :: ·)

/-- A key registers exactly when it has a space: the method is what precedes the first
space and the path what follows it. -/
theorem register_eq_ok_iff (methodPath : String) (stack : Stack) (registration : Registration) :
    register methodPath stack = .ok registration ↔
      ∃ method path, ' ' ∉ method.toList ∧ methodPath = method ++ " " ++ path ∧
        registration = ⟨path, stack, method, methodPath⟩ := by
  constructor
  · intro registered
    unfold register at registered
    split at registered
    · rename_i method path rest split
      obtain ⟨clear, joined, -⟩ := splitN_eq_two split
      cases registered
      exact ⟨method, path, clear, joined, rfl⟩
    · cases registered
  · rintro ⟨method, path, clear, rfl, rfl⟩
    rw [register, show " " = String.singleton ' ' from rfl, splitN_append path clear]

/-- A key fails to register exactly when it has no space: `parts` then has one element, and
`parts[1]` panics with index 1 out of range for length 1. -/
theorem register_eq_error_iff (methodPath : String) (stack : Stack) (panic : GoPanic) :
    register methodPath stack = .error panic ↔
      ' ' ∉ methodPath.toList ∧ panic = .indexOutOfRange 1 1 := by
  constructor
  · intro failed
    rcases cut : cutFirst ' ' methodPath.toList with ⟨before, _ | after⟩
    · have clear := cutFirst_eq_none cut
      rw [register, splitN_of_not_mem clear] at failed
      cases failed
      exact ⟨clear, rfl⟩
    · simp only [register, splitN, cut] at failed
      cases failed
  · rintro ⟨clear, rfl⟩
    rw [register, splitN_of_not_mem clear]
    rfl

/-- `Routes` returns exactly when each entry, in range order, registers as the
registration at its position. -/
theorem routes_eq_ok_iff (entries : List (String × Stack)) (registered : List Registration) :
    routes entries = .ok registered ↔
      List.Forall₂ (fun (entry : String × Stack) registration =>
        register entry.1 entry.2 = .ok registration) entries registered := by
  induction entries generalizing registered with
  | nil => simp [routes, List.forall₂_nil_left_iff, eq_comm]
  | cons entry rest ih =>
      obtain ⟨methodPath, stack⟩ := entry
      cases registered with
      | nil =>
          rcases registers : register methodPath stack with panic | registration <;>
            cases rest' : routes rest <;>
            simp [routes, registers, rest', Except.map, List.forall₂_nil_right_iff]
      | cons registration others =>
          rw [List.forall₂_cons, ← ih]
          rcases registers : register methodPath stack with panic | registration' <;>
            cases rest' : routes rest <;> simp [routes, registers, rest', Except.map, eq_comm]

/-- `Routes` panics exactly when some key has no space, and always with the same panic. -/
theorem routes_eq_error_iff (entries : List (String × Stack)) (panic : GoPanic) :
    routes entries = .error panic ↔
      (∃ entry ∈ entries, ' ' ∉ entry.1.toList) ∧ panic = .indexOutOfRange 1 1 := by
  induction entries with
  | nil => simp [routes]
  | cons entry rest ih =>
      obtain ⟨methodPath, stack⟩ := entry
      simp only [List.exists_mem_cons_iff]
      rcases registered : register methodPath stack with failure | registration
      · obtain ⟨clear, rfl⟩ := (register_eq_error_iff _ _ _).mp registered
        simp only [routes, registered]
        exact ⟨fun same => ⟨.inl clear, by cases same; rfl⟩, fun ⟨_, same⟩ => same ▸ rfl⟩
      · have spaced : ' ' ∈ methodPath.toList := by
          by_contra clear
          rw [(register_eq_error_iff _ _ (.indexOutOfRange 1 1)).mpr ⟨clear, rfl⟩] at registered
          cases registered
        rw [or_iff_right (not_not.mpr spaced), ← ih, routes, registered]
        cases routes rest <;> simp [Except.map]

end Notifications.Web
