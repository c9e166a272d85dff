import Mathlib.Data.List.Basic

/-!
# Go values seen by the handlers

The few Go runtime notions the modelled code depends on: `error` values,
slices that remember whether they are `nil`, the dynamic `interface{}`
values `encoding/json` produces, and the panics raised by type assertions,
nil dereferences and slice indexing.
-/

namespace Notifications.Go

/-- A Go `error`; the handlers only pass it on, so its text is all we keep. -/
structure GoError where
  message : String
  deriving DecidableEq, Repr

/--
A Go slice as the code observes it: its elements and whether it is `nil`.
`var users []User` is `nil`; `[]Response{}` is empty but not `nil`.
-/
structure GoSlice (α : Type) where
  items : List α
  isNil : Bool
  nil_empty : isNil = true → items = []
  deriving DecidableEq

namespace GoSlice

variable {α : Type}

/-- The zero value `var s []T`. -/
def nil : GoSlice α := ⟨[], true, fun _ => rfl⟩

/-- The composite literal `[]T{}`. -/
def empty : GoSlice α := ⟨[], false, nofun⟩

/-- `append(s, x)`: the result is never `nil`. -/
def append (slice : GoSlice α) (value : α) : GoSlice α :=
  ⟨slice.items ++ [value], false, nofun⟩

@[simp] theorem nil_items : (nil : GoSlice α).items = [] := rfl
@[simp] theorem nil_isNil : (nil : GoSlice α).isNil = true := rfl
@[simp] theorem empty_items : (empty : GoSlice α).items = [] := rfl
@[simp] theorem empty_isNil : (empty : GoSlice α).isNil = false := rfl
@[simp] theorem append_items (slice : GoSlice α) (value : α) :
    (slice.append value).items = slice.items ++ [value] := rfl
@[simp] theorem append_isNil (slice : GoSlice α) (value : α) :
    (slice.append value).isNil = false := rfl

/-- Two slices are equal when they agree on their elements and on being `nil`. -/
@[ext]
theorem ext {first second : GoSlice α} (items : first.items = second.items)
    (isNil : first.isNil = second.isNil) : first = second := by
  cases first; cases second; cases items; cases isNil; rfl

/-- `for _, x := range xs { s = append(s, f(x)) }`, the loop that builds a slice. -/
def appendEach {β : Type} (slice : GoSlice α) (f : β → α) (values : List β) : GoSlice α :=
  values.foldl (fun acc value => acc.append (f value)) slice

/-- The append loop keeps the earlier elements and adds one image per value, in order. -/
@[simp]
theorem appendEach_items {β : Type} (slice : GoSlice α) (f : β → α) (values : List β) :
    (slice.appendEach f values).items = slice.items ++ values.map f := by
  induction values generalizing slice with
  | nil => simp [appendEach]
  | cons value rest ih =>
      simpa [appendEach] using ih (slice.append (f value))

/-- The append loop leaves a slice `nil` exactly when it was `nil` and ran no iteration. -/
@[simp]
theorem appendEach_isNil {β : Type} (slice : GoSlice α) (f : β → α) (values : List β) :
    (slice.appendEach f values).isNil = (slice.isNil && values.isEmpty) := by
  induction values generalizing slice with
  | nil => simp [appendEach]
  | cons value rest ih =>
      simpa [appendEach] using ih (slice.append (f value))

end GoSlice

/-- A value of dynamic type `interface{}` as `encoding/json` decodes it. -/
inductive JsonValue
  | null
  | bool (value : Bool)
  | number (value : Int)
  | string (value : String)
  | array (elements : List JsonValue)
  | object (fields : List (String × JsonValue))

namespace JsonValue

/-- The dynamic type Go prints in an interface-conversion panic. -/
def goTypeName : JsonValue → String
  | .null => "nil"
  | .bool _ => "bool"
  | .number _ => "float64"
  | .string _ => "string"
  | .array _ => "[]interface {}"
  | .object _ => "map[string]interface {}"

end JsonValue

/-- The run-time panics the modelled code can raise. -/
inductive GoPanic
  /-- `x.(T)` on a value whose dynamic type is `actual`, not `wanted`. -/
  | interfaceConversion (actual wanted : String)
  /-- A field read through a `nil` pointer. -/
  | nilDereference
  /-- `xs[index]` on a slice of `length` elements. -/
  | indexOutOfRange (index length : Nat)
  /-- `panic(err)`. -/
  | error (err : GoError)
  deriving DecidableEq, Repr

namespace JsonValue

/-- The type assertion `value.(string)`. -/
def asString : JsonValue → Except GoPanic String
  | .string value => .ok value
  | other => .error (.interfaceConversion other.goTypeName "string")

/-- The type assertion `value.([]interface{})`. -/
def asArray : JsonValue → Except GoPanic (List JsonValue)
  | .array elements => .ok elements
  | other => .error (.interfaceConversion other.goTypeName "[]interface {}")

end JsonValue

end Notifications.Go
