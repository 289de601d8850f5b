/-!
# Replacing a word in a text

- `replaceAll word value s`: `s` with every occurrence of `word` replaced by `value`, the
  occurrences found from left to right and without overlap. The inserted text is not searched.
-/

namespace CommandFront

namespace Text

/-- Replaces the occurrences of `word`; the first `skip` characters belong to an occurrence
that has been replaced already. -/
def replaceFrom (word value : List Char) : Nat → List Char → List Char
  | _, [] => []
  | skip + 1, _ :: rest => replaceFrom word value skip rest
  | 0, c :: rest =>
    if word.isPrefixOf (c :: rest) then value ++ replaceFrom word value (word.length - 1) rest
    else c :: replaceFrom word value 0 rest

/-- Skipping drops the characters skipped. -/
theorem replaceFrom_eq_drop {word value : List Char} {skip : Nat} {s : List Char} :
    replaceFrom word value skip s = replaceFrom word value 0 (s.drop skip) := by
  induction skip generalizing s with
  | zero => rfl
  | succ n ih =>
    cases s with
    | nil => rfl
    | cons c rest => simpa [replaceFrom] using ih

/-- Replaces every occurrence of a word that is not empty. -/
def replaceAll (word value s : String) : String :=
  .ofList (replaceFrom word.toList value.toList 0 s.toList)

@[simp] theorem toList_replaceAll {word value s : String} :
    (replaceAll word value s).toList = replaceFrom word.toList value.toList 0 s.toList := by
  simp [replaceAll]

end Text

end CommandFront
