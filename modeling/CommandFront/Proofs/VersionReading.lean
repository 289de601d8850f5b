import CommandFront.CompilerVersion

/-!
# Reading the version of a compiler

A version is read at the leftmost place of a text where three runs of decimal digits follow each
other with a point between them, whatever comes later.

The scanner tries one place after the other and gives up for good at the first where three runs
stand, even if their numbers are too large: there is no second try at a later place. The leftmost
place is therefore stated apart from the scanner, by what stands there and by what does not stand
before it, and the scanner is shown to find this place and no other. Digits of other scripts count
as digits for the search, but make the conversion fail.

- `CompilerVersion.Continues`: a text begins with three runs.
- `CompilerVersion.FirstTriple`: the leftmost place where it does, each run taken as far as it goes.
- `CompilerVersion.tripleHere?_eq_some_iff`, `CompilerVersion.triple?_eq_some_iff`: what is found at
  the beginning of a text, and anywhere in it.
- `CompilerVersion.FirstTriple.parse?_eq_some_iff`: its runs are converted, if they are ASCII and
  fit.
- `CompilerVersion.parse?_text`: a version is read as it was printed.
- `CompilerVersion.parse_reads_first_triple`: what is read from any text.
-/

namespace CommandFront

namespace CompilerVersion

/-! ## Runs of digits -/

/-- A run of decimal digits, of whichever script. -/
def IsRun (s : List Char) : Prop :=
  s ≠ [] ∧ ∀ c ∈ s, Text.isDecimalDigit c = true

instance (s : List Char) : Decidable (IsRun s) :=
  decidable_of_iff (s ≠ [] ∧ s.all Text.isDecimalDigit = true)
    (and_congr_right fun _ => List.all_eq_true)

/-- A text without decimal digits. -/
def NoDigit (s : List Char) : Prop :=
  ∀ c ∈ s, Text.isDecimalDigit c = false

instance (s : List Char) : Decidable (NoDigit s) :=
  decidable_of_iff (s.any Text.isDecimalDigit = false)
    (by simp only [NoDigit, List.any_eq_false, Bool.not_eq_true])

/-- A text does not begin with a decimal digit. -/
def Stops (s : List Char) : Prop :=
  ∀ c ∈ s.head?, Text.isDecimalDigit c = false

instance (s : List Char) : Decidable (Stops s) :=
  decidable_of_iff (s.head?.any Text.isDecimalDigit = false) (Option.any_eq_false _ _)

/-- A text begins with three runs of digits that have a point between them. -/
def Continues (s : List Char) : Prop :=
  ∃ major minor patch rest, IsRun major ∧ IsRun minor ∧ IsRun patch
    ∧ s = major ++ '.' :: (minor ++ '.' :: (patch ++ rest))

theorem stops_point (s : List Char) : Stops ('.' :: s) := by
  intro c hc
  obtain rfl : '.' = c := Option.some.inj hc
  decide

/-- Three runs begin with a digit. -/
theorem Continues.exists_cons {s : List Char} (h : Continues s) :
    ∃ c rest, s = c :: rest ∧ Text.isDecimalDigit c = true := by
  obtain ⟨major, minor, patch, rest, ⟨hne, hdigits⟩, -, -, rfl⟩ := h
  obtain ⟨c, others, rfl⟩ := List.exists_cons_of_ne_nil hne
  exact ⟨c, _, List.cons_append, hdigits c List.mem_cons_self⟩

theorem not_continues_nil : ¬Continues [] := by
  intro h
  obtain ⟨c, rest, hcons, -⟩ := h.exists_cons
  cases hcons

/-- A run that is taken as far as it goes is followed by no digit. -/
theorem stops_dropWhile (s : List Char) : Stops (s.dropWhile Text.isDecimalDigit) := by
  intro c hc
  have hhead := List.head?_dropWhile_not Text.isDecimalDigit s
  rw [Option.mem_def.mp hc] at hhead
  simpa using hhead

/-- A run is made of digits. -/
theorem digits_takeWhile (s : List Char) :
    ∀ c ∈ s.takeWhile Text.isDecimalDigit, Text.isDecimalDigit c = true :=
  List.all_eq_true.mp List.all_takeWhile

/-- A run that is followed by no digit is found as it is. -/
theorem run?_eq_some_iff {s digits rest : List Char} :
    run? s = some (digits, rest) ↔ IsRun digits ∧ Stops rest ∧ s = digits ++ rest := by
  unfold run?
  dsimp only
  constructor
  · intro h
    split at h
    case isTrue => cases h
    case isFalse hne =>
      cases h
      exact ⟨⟨hne, digits_takeWhile s⟩, stops_dropWhile s,
        List.takeWhile_append_dropWhile.symm⟩
  · rintro ⟨⟨hne, hdigits⟩, hstops, rfl⟩
    have hrest : rest.takeWhile Text.isDecimalDigit = []
        ∧ rest.dropWhile Text.isDecimalDigit = rest := by
      cases rest with
      | nil => exact ⟨rfl, rfl⟩
      | cons c others =>
        have hc : ¬Text.isDecimalDigit c = true := Bool.eq_false_iff.mp (hstops c rfl)
        exact ⟨List.takeWhile_cons_of_neg hc, List.dropWhile_cons_of_neg hc⟩
    rw [List.takeWhile_append_of_pos hdigits, List.dropWhile_append_of_pos hdigits, hrest.1,
      hrest.2, List.append_nil, if_neg hne]

/-- A point is passed exactly if it stands there. -/
theorem afterPoint?_eq_some_iff {s rest : List Char} :
    afterPoint? s = some rest ↔ s = '.' :: rest := by
  constructor
  · intro h
    unfold afterPoint? at h
    split at h
    · rw [Option.some.inj h]
    · cases h
  · rintro rfl
    rfl

/-! ## The first triple -/

/-- The triple that begins a text, if there is one, goes on as far as there are digits. -/
theorem tripleHere?_eq_some_iff {s major minor patch : List Char} :
    tripleHere? s = some (major, minor, patch)
      ↔ ∃ rest, IsRun major ∧ IsRun minor ∧ IsRun patch ∧ Stops rest
        ∧ s = major ++ '.' :: (minor ++ '.' :: (patch ++ rest)) := by
  unfold tripleHere?
  constructor
  · intro h
    obtain ⟨⟨first, s₁⟩, hfirst, h₁⟩ := Option.bind_eq_some_iff.mp h
    obtain ⟨t₁, hpoint₁, h₂⟩ := Option.bind_eq_some_iff.mp h₁
    obtain ⟨⟨second, s₂⟩, hsecond, h₃⟩ := Option.bind_eq_some_iff.mp h₂
    obtain ⟨t₂, hpoint₂, h₄⟩ := Option.bind_eq_some_iff.mp h₃
    obtain ⟨⟨third, rest⟩, hthird, h₅⟩ := Option.bind_eq_some_iff.mp h₄
    obtain ⟨hmajor, -, rfl⟩ := run?_eq_some_iff.mp hfirst
    obtain rfl := afterPoint?_eq_some_iff.mp hpoint₁
    obtain ⟨hminor, -, rfl⟩ := run?_eq_some_iff.mp hsecond
    obtain rfl := afterPoint?_eq_some_iff.mp hpoint₂
    obtain ⟨hpatch, hstops, rfl⟩ := run?_eq_some_iff.mp hthird
    cases h₅
    exact ⟨rest, hmajor, hminor, hpatch, hstops, rfl⟩
  · rintro ⟨rest, hmajor, hminor, hpatch, hstops, rfl⟩
    refine Option.bind_eq_some_iff.mpr
      ⟨_, run?_eq_some_iff.mpr ⟨hmajor, stops_point _, rfl⟩, ?_⟩
    refine Option.bind_eq_some_iff.mpr ⟨_, afterPoint?_eq_some_iff.mpr rfl, ?_⟩
    refine Option.bind_eq_some_iff.mpr
      ⟨_, run?_eq_some_iff.mpr ⟨hminor, stops_point _, rfl⟩, ?_⟩
    refine Option.bind_eq_some_iff.mpr ⟨_, afterPoint?_eq_some_iff.mpr rfl, ?_⟩
    exact Option.bind_eq_some_iff.mpr ⟨_, run?_eq_some_iff.mpr ⟨hpatch, hstops, rfl⟩, rfl⟩

/-- No triple is found at the beginning exactly if none stands there. -/
theorem tripleHere?_eq_none_iff {s : List Char} : tripleHere? s = none ↔ ¬Continues s := by
  constructor
  · rintro hnone ⟨major, minor, patch, rest, hmajor, hminor, hpatch, rfl⟩
    -- the last run may go on with digits of what follows it
    have hdigits : IsRun (patch ++ rest.takeWhile Text.isDecimalDigit) := by
      refine ⟨fun hnil => hpatch.1 (List.append_eq_nil_iff.mp hnil).1, fun c hc => ?_⟩
      rcases List.mem_append.mp hc with hc | hc
      · exact hpatch.2 c hc
      · exact digits_takeWhile rest c hc
    have hfound := tripleHere?_eq_some_iff.mpr
      ⟨_, hmajor, hminor, hdigits, stops_dropWhile rest, rfl⟩
    rw [List.append_assoc, List.takeWhile_append_dropWhile, hnone] at hfound
    cases hfound
  · intro hnot
    cases hfound : tripleHere? s with
    | none => rfl
    | some triple =>
      obtain ⟨major, minor, patch⟩ := triple
      obtain ⟨rest, hmajor, hminor, hpatch, -, heq⟩ := tripleHere?_eq_some_iff.mp hfound
      exact absurd ⟨major, minor, patch, rest, hmajor, hminor, hpatch, heq⟩ hnot

/-- The leftmost place of a text where three runs of digits follow each other, each of them taken as
far as it goes. -/
structure FirstTriple (s front major minor patch rest : List Char) : Prop where
  text : s = front ++ (major ++ '.' :: (minor ++ '.' :: (patch ++ rest)))
  major : IsRun major
  minor : IsRun minor
  patch : IsRun patch
  greedy : Stops rest
  leftmost : ∀ before after, s = before ++ after → before.length < front.length →
    ¬Continues after

section FirstTriple

variable {s front major minor patch rest : List Char}

/-- Three runs stand at the place of the first triple. -/
theorem FirstTriple.continues (h : FirstTriple s front major minor patch rest) :
    Continues (major ++ '.' :: (minor ++ '.' :: (patch ++ rest))) :=
  ⟨major, minor, patch, rest, h.major, h.minor, h.patch, rfl⟩

/-- Where a triple begins a text, that is the first one. -/
theorem exists_firstTriple_here (h : Continues s) :
    (∃ front rest, FirstTriple s front major minor patch rest)
      ↔ tripleHere? s = some (major, minor, patch) := by
  constructor
  · rintro ⟨front, rest, hfirst⟩
    cases front with
    | nil =>
      exact tripleHere?_eq_some_iff.mpr
        ⟨rest, hfirst.major, hfirst.minor, hfirst.patch, hfirst.greedy, hfirst.text⟩
    | cons c later => exact absurd h (hfirst.leftmost [] s rfl (Nat.zero_lt_succ _))
  · intro hfound
    obtain ⟨rest, hmajor, hminor, hpatch, hstops, htext⟩ := tripleHere?_eq_some_iff.mp hfound
    refine ⟨[], rest, htext, hmajor, hminor, hpatch, hstops, ?_⟩
    intro before after _ hlength
    exact absurd hlength (Nat.not_lt_zero _)

/-- Else it is the first one of what follows. -/
theorem exists_firstTriple_cons {c : Char} (h : ¬Continues (c :: s)) :
    (∃ front rest, FirstTriple (c :: s) front major minor patch rest)
      ↔ ∃ front rest, FirstTriple s front major minor patch rest := by
  constructor
  · rintro ⟨front, rest, hfirst⟩
    have htext := hfirst.text
    cases front with
    | nil => exact absurd (htext ▸ hfirst.continues) h
    | cons d later =>
      obtain ⟨rfl, hs⟩ := List.cons.inj htext
      refine ⟨later, rest, hs, hfirst.major, hfirst.minor, hfirst.patch, hfirst.greedy, ?_⟩
      intro before after heq hlength
      exact hfirst.leftmost (c :: before) after (congrArg (c :: ·) heq)
        (Nat.succ_lt_succ hlength)
  · rintro ⟨later, rest, hlater⟩
    refine ⟨c :: later, rest, congrArg (c :: ·) hlater.text, hlater.major, hlater.minor,
      hlater.patch, hlater.greedy, ?_⟩
    intro before after heq hlength
    cases before with
    | nil =>
      have hafter : c :: s = after := heq
      rw [← hafter]
      exact h
    | cons d others =>
      obtain ⟨rfl, hs⟩ := List.cons.inj heq
      exact hlater.leftmost others after hs (Nat.lt_of_succ_lt_succ hlength)

/-- What is found in a text is its first triple. -/
theorem triple?_eq_some_iff : triple? s = some (major, minor, patch)
    ↔ ∃ front rest, FirstTriple s front major minor patch rest := by
  induction s with
  | nil =>
    constructor
    · intro h
      cases h
    · rintro ⟨front, rest, hfirst⟩
      have hcontinues := hfirst.continues
      rw [(List.append_eq_nil_iff.mp hfirst.text.symm).2] at hcontinues
      exact absurd hcontinues not_continues_nil
  | cons c s ih =>
    rw [triple?]
    by_cases hhere : Continues (c :: s)
    · rw [exists_firstTriple_here hhere]
      obtain ⟨triple, hfound⟩ :=
        Option.ne_none_iff_exists'.mp fun hnone => tripleHere?_eq_none_iff.mp hnone hhere
      rw [hfound, Option.some_or]
    · rw [exists_firstTriple_cons hhere, tripleHere?_eq_none_iff.mpr hhere, Option.none_or, ih]

/-- Nothing is found where no triple is. -/
theorem triple?_eq_none_iff :
    triple? s = none ↔ ∀ before after, s = before ++ after → ¬Continues after := by
  induction s with
  | nil =>
    refine ⟨fun _ before after heq => ?_, fun _ => rfl⟩
    rw [(List.append_eq_nil_iff.mp heq.symm).2]
    exact not_continues_nil
  | cons c s ih =>
    rw [triple?, Option.or_eq_none_iff, tripleHere?_eq_none_iff, ih]
    constructor
    · rintro ⟨hhere, hlater⟩ before after heq
      cases before with
      | nil =>
        have hafter : c :: s = after := heq
        rw [← hafter]
        exact hhere
      | cons d others => exact hlater others after (List.cons.inj heq).2
    · intro hnot
      exact ⟨hnot [] _ rfl, fun before after heq =>
        hnot (c :: before) after (congrArg (c :: ·) heq)⟩

/-! ## Conversion -/

/-- A run of ASCII digits whose number fits into a machine word. -/
def Convertible (digits : List Char) : Prop :=
  (∀ d ∈ digits, d.isDigit = true) ∧ Nat.ofDigitChars 10 digits 0 < Nat.pow 2 64

instance (digits : List Char) : Decidable (Convertible digits) :=
  decidable_of_iff (digits.all Char.isDigit = true ∧ Nat.ofDigitChars 10 digits 0 < Nat.pow 2 64)
    (and_congr_left fun _ => List.all_eq_true)

/-- A run is converted exactly if it is ASCII and its number fits. -/
theorem number?_eq_some_iff {digits : List Char} {n : Nat} :
    number? digits = some n ↔ Convertible digits ∧ Nat.ofDigitChars 10 digits 0 = n := by
  unfold number? Convertible
  dsimp only
  rw [Option.ite_none_right_eq_some, Option.some.injEq, List.all_eq_true]

/-- The version of the first triple, if each of its runs can be converted. -/
theorem FirstTriple.parse?_eq_some_iff {raw : String} {v : CompilerVersion}
    (h : FirstTriple raw.toList front major minor patch rest) : parse? raw = some v
      ↔ (Convertible major ∧ Convertible minor ∧ Convertible patch)
        ∧ v = ⟨Nat.ofDigitChars 10 major 0, Nat.ofDigitChars 10 minor 0,
          Nat.ofDigitChars 10 patch 0⟩ := by
  have htriple := triple?_eq_some_iff.mpr ⟨front, rest, h⟩
  rw [parse?, htriple, Option.bind_eq_bind, Option.bind_some]
  constructor
  · intro hv
    obtain ⟨n₁, hmajor, h₁⟩ := Option.bind_eq_some_iff.mp hv
    obtain ⟨n₂, hminor, h₂⟩ := Option.bind_eq_some_iff.mp h₁
    obtain ⟨n₃, hpatch, h₃⟩ := Option.bind_eq_some_iff.mp h₂
    obtain ⟨hconverts₁, rfl⟩ := number?_eq_some_iff.mp hmajor
    obtain ⟨hconverts₂, rfl⟩ := number?_eq_some_iff.mp hminor
    obtain ⟨hconverts₃, rfl⟩ := number?_eq_some_iff.mp hpatch
    exact ⟨⟨hconverts₁, hconverts₂, hconverts₃⟩, (Option.some.inj h₃).symm⟩
  · rintro ⟨⟨hmajor, hminor, hpatch⟩, rfl⟩
    refine Option.bind_eq_some_iff.mpr ⟨_, number?_eq_some_iff.mpr ⟨hmajor, rfl⟩, ?_⟩
    refine Option.bind_eq_some_iff.mpr ⟨_, number?_eq_some_iff.mpr ⟨hminor, rfl⟩, ?_⟩
    exact Option.bind_eq_some_iff.mpr ⟨_, number?_eq_some_iff.mpr ⟨hpatch, rfl⟩, rfl⟩

end FirstTriple

/-! ## Printing -/

/-- The numbers of a version fit into machine words. -/
def Fits (v : CompilerVersion) : Prop :=
  v.major < Nat.pow 2 64 ∧ v.minor < Nat.pow 2 64 ∧ v.patch < Nat.pow 2 64

instance (v : CompilerVersion) : Decidable v.Fits :=
  inferInstanceAs (Decidable (_ ∧ _))

theorem isRun_toDigits (n : Nat) : IsRun (Nat.toDigits 10 n) :=
  ⟨Nat.toDigits_ne_nil, fun _ hd => Text.isDecimalDigit_of_isDigit
    (Nat.isDigit_of_mem_toDigits (by decide) (by decide) hd)⟩

/-- The digits of a number that fits are converted. -/
theorem convertible_toDigits {n : Nat} (h : n < Nat.pow 2 64) :
    Convertible (Nat.toDigits 10 n) := by
  refine ⟨fun d hd => Nat.isDigit_of_mem_toDigits (by decide) (by decide) hd, ?_⟩
  rw [Nat.ofDigitChars_toDigits (by decide) (by decide)]
  exact h

/-- A version is printed as its three numbers with points between them. -/
theorem text_toList (v : CompilerVersion) : v.text.toList
    = Nat.toDigits 10 v.major
      ++ '.' :: (Nat.toDigits 10 v.minor ++ '.' :: Nat.toDigits 10 v.patch) := by
  simp [text]

/-- No triple begins before a text without digits ends. -/
theorem not_continues_of_append {front s before after : List Char}
    (hfront : NoDigit front) (heq : front ++ s = before ++ after)
    (hlength : before.length < front.length) : ¬Continues after := by
  intro hcontinues
  obtain ⟨c, others, rfl, hc⟩ := hcontinues.exists_cons
  rcases List.append_eq_append_iff.mp heq with ⟨more, rfl, -⟩ | ⟨more, rfl, hafter⟩
  · rw [List.length_append] at hlength
    omega
  · cases more with
    | nil => simp at hlength
    | cons d more =>
      obtain ⟨rfl, -⟩ := List.cons.inj hafter
      have hplain := hfront c (List.mem_append_right before List.mem_cons_self)
      rw [hc] at hplain
      cases hplain

section Printed

variable {v : CompilerVersion} {front s : String}

/-- A printed version is the first triple of a text that has no digits in front of it. -/
theorem firstTriple_text (hfront : NoDigit front.toList) (hs : Stops s.toList) :
    FirstTriple (front ++ v.text ++ s).toList front.toList (Nat.toDigits 10 v.major)
      (Nat.toDigits 10 v.minor) (Nat.toDigits 10 v.patch) s.toList where
  text := by simp [text_toList]
  major := isRun_toDigits v.major
  minor := isRun_toDigits v.minor
  patch := isRun_toDigits v.patch
  greedy := hs
  leftmost before after heq hlength := by
    rw [String.append_assoc, String.toList_append] at heq
    exact not_continues_of_append hfront heq hlength

/-- A version is read as it was printed, whatever is around it. -/
theorem parse?_text (hv : v.Fits) (hfront : NoDigit front.toList) (hs : Stops s.toList) :
    parse? (front ++ v.text ++ s) = some v := by
  refine (firstTriple_text hfront hs).parse?_eq_some_iff.mpr
    ⟨⟨convertible_toDigits hv.1, convertible_toDigits hv.2.1, convertible_toDigits hv.2.2⟩, ?_⟩
  simp only [Nat.ofDigitChars_toDigits (b := 10) (by decide) (by decide)]

end Printed

/-- A text is read at the leftmost place where three runs of digits follow each other, each of them
taken as far as it goes. There is no version where there is no such place, and none either where one
of the three runs is not of ASCII digits or does not fit, whatever comes later. So each version is
read as it was printed after anything without digits and before anything but a digit. -/
theorem parse_reads_first_triple (raw : String) :
    ((∃ before after, raw.toList = before ++ after ∧ Continues after)
      ↔ ∃ front major minor patch rest, FirstTriple raw.toList front major minor patch rest)
    ∧ ((∀ before after, raw.toList = before ++ after → ¬Continues after) → parse? raw = none)
    ∧ (∀ front major minor patch rest, FirstTriple raw.toList front major minor patch rest →
      (∀ v, parse? raw = some v ↔ (Convertible major ∧ Convertible minor ∧ Convertible patch)
        ∧ v = ⟨Nat.ofDigitChars 10 major 0, Nat.ofDigitChars 10 minor 0,
          Nat.ofDigitChars 10 patch 0⟩)
      ∧ (parse? raw = none ↔ ¬(Convertible major ∧ Convertible minor ∧ Convertible patch)))
    ∧ ∀ (v : CompilerVersion) (front s : String), raw = front ++ v.text ++ s → v.Fits →
      NoDigit front.toList → Stops s.toList → parse? raw = some v := by
  refine ⟨⟨?place, ?found⟩, ?none, ?first, ?printed⟩
  case place =>
    rintro ⟨before, after, heq, hcontinues⟩
    cases hfound : triple? raw.toList with
    | none => exact absurd hcontinues (triple?_eq_none_iff.mp hfound before after heq)
    | some triple =>
      obtain ⟨major, minor, patch⟩ := triple
      obtain ⟨front, rest, hfirst⟩ := triple?_eq_some_iff.mp hfound
      exact ⟨front, major, minor, patch, rest, hfirst⟩
  case found =>
    rintro ⟨front, major, minor, patch, rest, hfirst⟩
    exact ⟨front, _, hfirst.text, hfirst.continues⟩
  case none =>
    intro hnot
    unfold parse?
    rw [triple?_eq_none_iff.mpr hnot]
    rfl
  case first =>
    intro front major minor patch rest hfirst
    refine ⟨fun v => hfirst.parse?_eq_some_iff, ?_⟩
    rw [Option.eq_none_iff_forall_ne_some]
    constructor
    · intro hnone hconvertible
      exact hnone _ (hfirst.parse?_eq_some_iff.mpr ⟨hconvertible, rfl⟩)
    · intro hnot v hv
      exact hnot (hfirst.parse?_eq_some_iff.mp hv).1
  case printed =>
    rintro v front s rfl hv hfront hs
    exact parse?_text hv hfront hs

end CompilerVersion

namespace Sample

open CompilerVersion

/-- The triple that begins a text is the first one, also when it is too large. -/
theorem large_triple : FirstTriple "18446744073709551616.0.0 1.78.0".toList []
    "18446744073709551616".toList "0".toList "0".toList " 1.78.0".toList where
  text := rfl
  major := by decide
  minor := by decide
  patch := by decide
  greedy := by decide
  leftmost _ _ _ hlength := absurd hlength (Nat.not_lt_zero _)

/-- A compiler's output is read, a first triple that is too large is not passed over, and there is
nothing to read in a text without digits. -/
theorem compiler_output_is_read :
    (Fits ⟨1, 78, 0⟩ ∧ parse? "rustc 1.78.0 (9b00956e5 2024-04-29)" = some ⟨1, 78, 0⟩)
    ∧ (¬Convertible "18446744073709551616".toList
      ∧ parse? "18446744073709551616.0.0 1.78.0" = none)
    ∧ parse? "unknown" = none := by
  have hlarge : ¬Convertible "18446744073709551616".toList := by decide
  have hletters : NoDigit "unknown".toList := by decide
  obtain ⟨-, -, -, hprinted⟩ := parse_reads_first_triple "rustc 1.78.0 (9b00956e5 2024-04-29)"
  obtain ⟨-, -, hfirst, -⟩ := parse_reads_first_triple "18446744073709551616.0.0 1.78.0"
  obtain ⟨-, hnone, -, -⟩ := parse_reads_first_triple "unknown"
  refine ⟨⟨by decide, ?_⟩, ⟨hlarge, ?_⟩, hnone ?_⟩
  · exact hprinted ⟨1, 78, 0⟩ "rustc " " (9b00956e5 2024-04-29)" (by decide) (by decide)
      (by decide) (by decide)
  · exact (hfirst _ _ _ _ _ large_triple).2.mpr fun h => hlarge h.1
  · intro before after heq hcontinues
    obtain ⟨c, others, rfl, hc⟩ := hcontinues.exists_cons
    have hmem : c ∈ "unknown".toList := by
      rw [heq]
      exact List.mem_append_right before List.mem_cons_self
    rw [hletters c hmem] at hc
    cases hc

end Sample

end CommandFront
