import Mathlib.Data.List.Basic

/-!
# The `strings` and `bytes` functions the code calls

`strings.TrimPrefix` and `strings.SplitN` with a limit of two, over the
characters of a string.  The prefixes and separators the code passes are
ASCII, where a character prefix is a byte prefix.  `bytes.Split` with a
one-byte separator is `List.splitOn`.
-/

namespace Notifications.Go

/-- `strings.TrimPrefix(s, prefix)`. -/
def trimPrefix (s pre : String) : String :=
  if pre.toList.isPrefixOf s.toList then ⟨s.toList.drop pre.length⟩ else s

/-- Trimming a prefix the string starts with leaves exactly the rest. -/
@[simp]
theorem trimPrefix_append (pre rest : String) : trimPrefix (pre ++ rest) pre = rest := by
  have joined : (pre ++ rest).toList = pre.toList ++ rest.toList := String.data_append ..
  have length : pre.length = pre.toList.length := rfl
  rw [trimPrefix, joined, length, if_pos (List.isPrefixOf_iff_prefix.mpr (List.prefix_append _ _)),
    List.drop_left]
  rfl

/-- A string that does not start with the prefix is returned unchanged. -/
theorem trimPrefix_of_not_prefix {s pre : String} (missing : ¬ pre.toList <+: s.toList) :
    trimPrefix s pre = s := by
  rw [trimPrefix, if_neg (by simpa using missing)]

/-- The characters before the first `sep`, and those after it if there is one. -/
def cutFirst (sep : Char) : List Char → List Char × Option (List Char)
  | [] => ([], none)
  | c :: rest =>
      if c = sep then ([], some rest)
      else ((c :: (cutFirst sep rest).1), (cutFirst sep rest).2)

theorem cutFirst_append {sep : Char} {before : List Char} (after : List Char)
    (clear : sep ∉ before) : cutFirst sep (before ++ sep :: after) = (before, some after) := by
  induction before with
  | nil => simp [cutFirst]
  | cons c rest ih =>
      have other : c ≠ sep := fun same => clear (same ▸ List.mem_cons_self c rest)
      simp [cutFirst, other, ih (fun mem => clear (List.mem_cons_of_mem c mem))]

theorem cutFirst_of_not_mem {sep : Char} {chars : List Char} (clear : sep ∉ chars) :
    cutFirst sep chars = (chars, none) := by
  induction chars with
  | nil => rfl
  | cons c rest ih =>
      have other : c ≠ sep := fun same => clear (same ▸ List.mem_cons_self c rest)
      simp [cutFirst, other, ih (fun mem => clear (List.mem_cons_of_mem c mem))]

/-- A cut that found no separator was over characters without one. -/
theorem cutFirst_eq_none {sep : Char} {chars before : List Char}
    (cut : cutFirst sep chars = (before, none)) : sep ∉ chars := by
  induction chars generalizing before with
  | nil => exact List.not_mem_nil sep
  | cons c rest ih =>
      by_cases same : c = sep
      · simp [cutFirst, same] at cut
      · simp only [cutFirst, same, if_false, Prod.mk.injEq] at cut
        simpa [Ne.symm same] using ih (Prod.ext rfl cut.2)

/-- A cut that found the separator split the characters around its first occurrence. -/
theorem cutFirst_eq_some {sep : Char} {chars before after : List Char}
    (cut : cutFirst sep chars = (before, some after)) :
    sep ∉ before ∧ chars = before ++ sep :: after := by
  induction chars generalizing before with
  | nil => simp [cutFirst] at cut
  | cons c rest ih =>
      by_cases same : c = sep
      · simp only [cutFirst, same, if_true, Prod.mk.injEq, Option.some.injEq] at cut
        obtain ⟨rfl, rfl⟩ := cut
        simp [same]
      · simp only [cutFirst, same, if_false, Prod.mk.injEq] at cut
        obtain ⟨rfl, found⟩ := cut
        obtain ⟨clear, split⟩ := ih (Prod.ext rfl found)
        exact ⟨by simp [clear, Ne.symm same], congrArg (List.cons c) split⟩

/-- `strings.SplitN(s, sep, 2)` for a one-character separator. -/
def splitN (s : String) (sep : Char) : List String :=
  match cutFirst sep s.toList with
  | (before, none) => [⟨before⟩]
  | (before, some after) => [⟨before⟩, ⟨after⟩]

/-- Splitting at the first separator recovers the two sides it joined. -/
theorem splitN_append {sep : Char} {first : String} (second : String)
    (clear : sep ∉ first.toList) :
    splitN (first ++ String.singleton sep ++ second) sep = [first, second] := by
  have joined : (first ++ String.singleton sep ++ second).toList =
      first.toList ++ sep :: second.toList := by
    show (first ++ String.singleton sep ++ second).data = first.data ++ sep :: second.data
    rw [String.data_append, String.data_append, List.append_assoc]
    rfl
  rw [splitN, joined, cutFirst_append _ clear]
  rfl

/-- Without a separator the whole string is the only part. -/
theorem splitN_of_not_mem {sep : Char} {s : String} (clear : sep ∉ s.toList) :
    splitN s sep = [s] := by
  rw [splitN, cutFirst_of_not_mem clear]
  rfl

/-- Two parts come only from a separator: the first has none, and they join back to `s`. -/
theorem splitN_eq_two {sep : Char} {s first second : String} {rest : List String}
    (split : splitN s sep = first :: second :: rest) :
    sep ∉ first.toList ∧ s = first ++ String.singleton sep ++ second ∧ rest = [] := by
  rcases cut : cutFirst sep s.toList with ⟨before, _ | after⟩
  · simp only [splitN, cut] at split
    simp at split
  · simp only [splitN, cut, List.cons.injEq] at split
    obtain ⟨rfl, rfl, rfl⟩ := split
    obtain ⟨clear, joined⟩ := cutFirst_eq_some cut
    refine ⟨clear, String.ext ?_, rfl⟩
    show s.toList = (⟨before⟩ ++ String.singleton sep ++ ⟨after⟩ : String).data
    rw [String.data_append, String.data_append, List.append_assoc]
    exact joined

/-- `bytes.Split(b, []byte{sep})`: the pieces between the occurrences of `sep`, empty
pieces included. -/
def bytesSplit (b : List UInt8) (sep : UInt8) : List (List UInt8) := b.splitOn sep

/-- Pieces each followed by the separator split back into themselves, and one empty
piece after the last separator. -/
theorem bytesSplit_terminated {sep : UInt8} {pieces : List (List UInt8)}
    (clear : ∀ piece ∈ pieces, sep ∉ piece) :
    bytesSplit (pieces.flatMap (· ++ [sep])) sep = pieces ++ [[]] := by
  induction pieces with
  | nil => rfl
  | cons piece rest ih =>
      have own : ∀ byte ∈ piece, ¬(byte == sep) = true := fun byte mem same =>
        clear piece (List.mem_cons_self _ _) (beq_iff_eq.mp same ▸ mem)
      rw [List.flatMap_cons, List.append_assoc, List.singleton_append, bytesSplit, List.splitOn,
        List.splitOnP_first _ _ own sep (beq_self_eq_true sep)]
      exact congrArg (piece :: ·) (ih fun other mem => clear other (List.mem_cons_of_mem _ mem))

end Notifications.Go
