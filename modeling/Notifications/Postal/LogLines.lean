import Mathlib.Data.List.Forall2
import Notifications.Go.Values
import Notifications.Go.Strings

/-!
# Reading back the worker's log

The delivery worker logs through lager, which writes each entry as one JSON
object followed by a newline; its tests read the buffer back with
`parseLogLines`.  That function splits the bytes at newlines, skips empty
lines and unmarshals every other line into a `logLine`, appending it to a
slice that starts `nil`.  The first line that fails to unmarshal ends the loop:
the lines read before it are returned with the error.  `json.Unmarshal` into a
fresh `logLine` is the parameter `unmarshal`.
-/

namespace Notifications.Postal

open Notifications.Go

/-- `logLine`: the fields of a lager entry; `Data` is the decoded map, as its entries. -/
structure LogLine where
  source : String
  message : String
  logLevel : Int
  data : List (String × JsonValue)

/-- The byte `'\n'`. -/
def newline : UInt8 := 10

variable (unmarshal : List UInt8 → Except GoError LogLine)

/-- The loop of `parseLogLines`, from the lines read so far. -/
def parseLoop : GoSlice LogLine → List (List UInt8) → GoSlice LogLine × Option GoError
  | lines, [] => (lines, none)
  | lines, line :: rest =>
      if line.isEmpty then parseLoop lines rest
      else
        match unmarshal line with
        | .error err => (lines, some err)
        | .ok ll => parseLoop (lines.append ll) rest

/-- `parseLogLines(b)`, with `json.Unmarshal(line, &ll)` as `unmarshal line`. -/
def parseLogLines (b : List UInt8) : GoSlice LogLine × Option GoError :=
  parseLoop unmarshal GoSlice.nil (bytesSplit b newline)

/-- The lines the loop unmarshals: the non-empty ones. -/
def nonEmptyLines (lines : List (List UInt8)) : List (List UInt8) :=
  lines.filter fun line => !line.isEmpty

@[simp] theorem nonEmptyLines_nil : nonEmptyLines [] = [] := rfl

theorem nonEmptyLines_cons (line : List UInt8) (rest : List (List UInt8)) :
    nonEmptyLines (line :: rest) =
      if line.isEmpty then nonEmptyLines rest else line :: nonEmptyLines rest := by
  cases line <;> rfl

/-- When every non-empty line unmarshals, the loop appends their log lines in order. -/
theorem parseLoop_of_forall₂ {lines : List (List UInt8)} {decoded : List LogLine}
    (each : List.Forall₂ (fun line ll => unmarshal line = .ok ll) (nonEmptyLines lines) decoded)
    (read : GoSlice LogLine) :
    parseLoop unmarshal read lines = (read.appendEach id decoded, none) := by
  induction lines generalizing read decoded with
  | nil => cases each; rfl
  | cons line rest ih =>
      rw [nonEmptyLines_cons] at each
      by_cases empty : line.isEmpty
      · rw [if_pos empty] at each
        rw [parseLoop, if_pos empty, ih each]
      · rw [if_neg empty] at each
        cases each with
        | cons decodes tail =>
            rw [parseLoop, if_neg empty, decodes]
            exact ih tail _

/-- At the first non-empty line that fails to unmarshal, the loop stops with its error,
having appended the log lines of the non-empty lines before it. -/
theorem parseLoop_of_first_error {lines good rest : List (List UInt8)} {bad : List UInt8}
    {decoded : List LogLine} {err : GoError}
    (split : nonEmptyLines lines = good ++ bad :: rest)
    (each : List.Forall₂ (fun line ll => unmarshal line = .ok ll) good decoded)
    (fails : unmarshal bad = .error err) (read : GoSlice LogLine) :
    parseLoop unmarshal read lines = (read.appendEach id decoded, some err) := by
  induction lines generalizing read good decoded with
  | nil => simp at split
  | cons line others ih =>
      rw [nonEmptyLines_cons] at split
      by_cases empty : line.isEmpty
      · rw [if_pos empty] at split
        rw [parseLoop, if_pos empty, ih split each]
      · rw [if_neg empty] at split
        rw [parseLoop, if_neg empty]
        cases good with
        | nil =>
            obtain ⟨rfl, -⟩ := List.cons.inj split
            cases each
            rw [fails]
            rfl
        | cons first good =>
            obtain ⟨rfl, later⟩ := List.cons.inj split
            cases each with
            | cons decodes tail =>
                rw [decodes]
                exact ih later tail _

/--
Whatever the buffer holds, `parseLogLines` reads its non-empty lines in order: when each
unmarshals it returns their log lines appended to a `nil` slice, and no error; otherwise
it returns the log lines of the lines before the first one that fails, with that line's
error, whatever follows it.
-/
theorem parseLogLines_reads_until_first_error (b : List UInt8) :
    (∀ decoded, List.Forall₂ (fun line ll => unmarshal line = .ok ll)
        (nonEmptyLines (bytesSplit b newline)) decoded →
      parseLogLines unmarshal b = (GoSlice.nil.appendEach id decoded, none)) ∧
    (∀ good bad rest decoded err,
      nonEmptyLines (bytesSplit b newline) = good ++ bad :: rest →
      List.Forall₂ (fun line ll => unmarshal line = .ok ll) good decoded →
      unmarshal bad = .error err →
      parseLogLines unmarshal b = (GoSlice.nil.appendEach id decoded, some err)) :=
  ⟨fun _ each => parseLoop_of_forall₂ unmarshal each _,
    fun _ _ _ _ _ split each fails => parseLoop_of_first_error unmarshal split each fails _⟩

/--
What lager writes, each entry's JSON followed by a newline, reads back as exactly those
entries in order, with no error and a `nil` slice for an empty log, when the JSON of each
entry is non-empty, holds no raw newline and unmarshals to the entry.
-/
theorem parseLogLines_reads_back_logged_lines (encode : LogLine → List UInt8)
    {logged : List LogLine}
    (encoded : ∀ ll ∈ logged,
      newline ∉ encode ll ∧ encode ll ≠ [] ∧ unmarshal (encode ll) = .ok ll) :
    parseLogLines unmarshal (logged.flatMap fun ll => encode ll ++ [newline]) =
      (GoSlice.nil.appendEach id logged, none) := by
  have pieces : bytesSplit (logged.flatMap fun ll => encode ll ++ [newline]) newline =
      logged.map encode ++ [[]] := by
    rw [← bytesSplit_terminated (by simpa using fun ll mem => (encoded ll mem).1)]
    simp [List.flatMap_map]
  have nonEmpty : nonEmptyLines (logged.map encode ++ [[]]) = logged.map encode := by
    rw [nonEmptyLines, List.filter_append, List.filter_eq_self.mpr (by simpa using
      fun ll mem => (encoded ll mem).2.1)]
    exact List.append_nil _
  apply parseLoop_of_forall₂
  rw [pieces, nonEmpty, List.forall₂_map_left_iff]
  exact List.forall₂_same.mpr fun ll mem => (encoded ll mem).2.2

/-- The entry the worker logs before it hands a campaign to the strategy determiner. -/
def determiningStrategyLine : LogLine :=
  ⟨"notifications", "notifications.worker.determining-strategy", 1,
    [("session", .string "1"), ("worker_id", .number 1234)]⟩

/-- A decoder that reads the bytes of `{}` as that entry and rejects anything else. -/
def determiningStrategyDecoder (line : List UInt8) : Except GoError LogLine :=
  if line = [123, 125] then .ok determiningStrategyLine else .error ⟨"invalid character"⟩

theorem parseLogLines_reads_back_two_entries :
    parseLogLines determiningStrategyDecoder
        ([determiningStrategyLine, determiningStrategyLine].flatMap fun _ => [123, 125] ++ [newline]) =
      (GoSlice.nil.appendEach id [determiningStrategyLine, determiningStrategyLine], none) :=
  parseLogLines_reads_back_logged_lines determiningStrategyDecoder (fun _ => [123, 125])
    (by simp [determiningStrategyDecoder, newline])

end Notifications.Postal
