import CommandFront.Json.Printer
import CommandFront.Toml.Text

/-!
# Reading JSON

A reader of JSON documents that knows nothing of how they are written, and what it makes of those
that are.

The reader serves to say what a report in JSON means, so it is written for reading and not after the
printer: it takes any blanks between tokens, any escapes and the members of an object in their
order. What is shown of it is one direction only, that it reads a document back that the printer
wrote. The proof goes along the value; at each place it needs to know what may follow there, so that
a number or a word ends where it should.

- `Json.read?`: reads a document. Numbers with a fraction or an exponent are not read.
- `Json.readChar_escape`, `Json.readText_escape`: a text is read as it was before it was escaped.
- `Json.readInteger_toString`: a whole number is read as it was.
- `Json.readList_written`: items and members are read one by one.
- `Json.Plain`: a value without numbers of the format binary64.
- `Json.read?_pretty`: a plain value that is written is read as itself.
-/

namespace CommandFront

namespace Json

/-! ## The reader -/

/-- The characters between the parts of a document. -/
def isBlank (c : Char) : Bool :=
  decide (c ∈ [' ', '\n', '\r', '\t'])

/-- What comes after the blanks. -/
def skipBlank (s : List Char) : List Char :=
  s.dropWhile isBlank

/-- Reads four hexadecimal digits. -/
def readHex : List Char → Option (Nat × List Char)
  | a :: b :: c :: d :: rest => do
    let high := 16 * (← Toml.hexValue? a) + (← Toml.hexValue? b)
    let low := 16 * (← Toml.hexValue? c) + (← Toml.hexValue? d)
    return (256 * high + low, rest)
  | _ => none

/-- Reads a code unit in hexadecimal digits, or two of them that make one character. -/
def readCodePoint (s : List Char) : Option (Char × List Char) := do
  let (n, rest) ← readHex s
  if n.isValidChar then return (Char.ofNat n, rest)
  else
    match rest with
    | '\\' :: 'u' :: rest => do
      let (m, rest) ← readHex rest
      if n < 0xdc00 ∧ 0xdc00 ≤ m ∧ m < 0xe000 then
        return (Char.ofNat (0x10000 + 0x400 * (n - 0xd800) + (m - 0xdc00)), rest)
      else none
    | _ => none

/-- The character of a letter after a backslash. -/
def unescape? (c : Char) : Option Char :=
  if c = '/' then some '/' else Toml.escaped? c

/-- Reads one character of a text. -/
def readChar : List Char → Option (Char × List Char)
  | [] => none
  | c :: rest =>
    if c = '\\' then
      match rest with
      | [] => none
      | letter :: rest =>
        if letter = 'u' then readCodePoint rest
        else do return (← unescape? letter, rest)
    else if c < ' ' then none
    else some (c, rest)

/-- Reads a text after its opening quote. -/
def readText : Nat → List Char → Option (List Char × List Char)
  | 0, _ => none
  | fuel + 1, s =>
    if s.head? = some '"' then some ([], s.tail)
    else do
      let (c, rest) ← readChar s
      let (cs, rest) ← readText fuel rest
      return (c :: cs, rest)

/-- Reads a whole number, which has no zeros in front. -/
def readInteger (s : List Char) : Option (Json × List Char) :=
  let negative := s.head? = some '-'
  let body := if negative then s.tail else s
  let digits := body.takeWhile Char.isDigit
  let rest := body.dropWhile Char.isDigit
  let n : Int := Nat.ofDigitChars 10 digits 0
  if digits = [] ∨ (digits.head? = some '0' ∧ digits ≠ ['0'])
      ∨ rest.head? ∈ [some '.', some 'e', some 'E'] then none
  else some (.integer (if negative then -n else n), rest)

/-- Reads a value that is one word. -/
def readWord (s : List Char) : Option (Json × List Char) :=
  if s.take 4 = "null".toList then some (.null, s.drop 4)
  else if s.take 4 = "true".toList then some (.bool true, s.drop 4)
  else if s.take 5 = "false".toList then some (.bool false, s.drop 5)
  else readInteger s

section Sequences

variable {α : Type} (item : List Char → Option (α × List Char)) (close : Char)

/-- Reads what stands between commas, and the closing bracket. -/
def readSequence : Nat → List Char → Option (List α × List Char)
  | 0, _ => none
  | fuel + 1, s => do
    let (a, rest) ← item (skipBlank s)
    match skipBlank rest with
    | [] => none
    | c :: rest =>
      if c = close then return ([a], rest)
      else if c = ',' then do
        let (others, rest) ← readSequence fuel rest
        return (a :: others, rest)
      else none

/-- The same, where nothing need stand before the closing bracket. -/
def readList (fuel : Nat) (s : List Char) : Option (List α × List Char) :=
  if (skipBlank s).head? = some close then some ([], (skipBlank s).tail)
  else readSequence item close fuel s

end Sequences

/-- Reads a name, a colon and a value. -/
def readMember (value : List Char → Option (Json × List Char)) (fuel : Nat) (s : List Char) :
    Option ((String × Json) × List Char) :=
  if s.head? = some '"' then do
    let (name, rest) ← readText fuel s.tail
    if (skipBlank rest).head? = some ':' then do
      let (v, rest) ← value (skipBlank (skipBlank rest).tail)
      return ((.ofList name, v), rest)
    else none
  else none

/-- Reads a value. -/
def readValue : Nat → List Char → Option (Json × List Char)
  | 0, _ => none
  | _ + 1, [] => none
  | fuel + 1, c :: rest =>
    if c = '"' then (readText fuel rest).map fun (cs, rest) => (.text (.ofList cs), rest)
    else if c = '[' then
      (readList (readValue fuel) ']' fuel rest).map fun (items, rest) => (.array items, rest)
    else if c = '\x7b' then
      (readList (readMember (readValue fuel) fuel) '\x7d' fuel rest).map
        fun (members, rest) => (.object members, rest)
    else readWord (c :: rest)

/-- Reads a document: one value and blanks around it. -/
def read? (document : String) : Option Json := do
  let (j, rest) ← readValue (document.toList.length + 1) (skipBlank document.toList)
  if skipBlank rest = [] then return j else none

/-! ## Texts -/

/-- A hexadecimal digit that is written is read as its value. -/
theorem hexValue?_digitChar {n : Nat} (h : n < 16) : Toml.hexValue? (Nat.digitChar n) = some n := by
  have hall : ∀ k : Fin 16, Toml.hexValue? (Nat.digitChar k) = some k.val := by decide
  exact hall ⟨n, h⟩

/-- Four hexadecimal digits are read as the character that they were made of. -/
theorem readCodePoint_of_lt {c : Char} (h : c.toNat < 256) (rest : List Char) :
    readCodePoint
        ('0' :: '0' :: Nat.digitChar (c.toNat / 16) :: Nat.digitChar (c.toNat % 16) :: rest)
      = some (c, rest) := by
  have hhex : readHex
        ('0' :: '0' :: Nat.digitChar (c.toNat / 16) :: Nat.digitChar (c.toNat % 16) :: rest)
      = some (c.toNat, rest) := by
    have hzero : Toml.hexValue? '0' = some 0 := by decide
    have hhigh := hexValue?_digitChar (n := c.toNat / 16) (by omega)
    have hlow := hexValue?_digitChar (n := c.toNat % 16) (by omega)
    have hvalue : 256 * (16 * 0 + 0) + (16 * (c.toNat / 16) + c.toNat % 16) = c.toNat := by omega
    simp only [readHex, hzero, hhigh, hlow, Option.bind_eq_bind, Option.bind_some, hvalue]
    rfl
  have hvalid : c.toNat.isValidChar := c.valid
  simp only [readCodePoint, hhex, Option.bind_eq_bind, Option.bind_some, if_pos hvalid,
    Char.ofNat_toNat]
  rfl

/-- A character is read as it was before it was escaped. -/
theorem readChar_escape (c : Char) (rest : List Char) :
    readChar (escape c ++ rest) = some (c, rest) := by
  unfold escape
  split
  case h_8 hquote hbackslash _ _ _ _ _ =>
    split
    case isTrue hcontrol =>
      have hlt : c.toNat < 32 := hcontrol
      have hpoint := readCodePoint_of_lt (c := c) (by omega) rest
      simpa [readChar] using hpoint
    case isFalse hcontrol =>
      have hne : c ≠ '\\' := hbackslash
      simp [readChar, hne, hcontrol]
  all_goals rfl

/-- An escaped character is not empty, and it does not begin with the quote that ends a text. -/
theorem exists_cons_of_escape (c : Char) : ∃ d tail, escape c = d :: tail ∧ d ≠ '"' := by
  unfold escape
  split
  case h_8 hquote _ _ _ _ _ _ =>
    split
    · exact ⟨_, _, rfl, by decide⟩
    · exact ⟨_, _, rfl, hquote⟩
  all_goals exact ⟨_, _, rfl, by decide⟩

/-- A text is read as it was before it was escaped. -/
theorem readText_escape {fuel : Nat} (cs rest : List Char) (h : cs.length < fuel) :
    readText fuel (cs.flatMap escape ++ '"' :: rest) = some (cs, rest) := by
  induction cs generalizing fuel with
  | nil =>
    obtain ⟨n, rfl⟩ : ∃ n, fuel = n + 1 := ⟨fuel - 1, by omega⟩
    rfl
  | cons c cs ih =>
    obtain ⟨n, rfl⟩ : ∃ n, fuel = n + 1 := ⟨fuel - 1, by omega⟩
    have hlength : cs.length < n := by
      rw [List.length_cons] at h
      omega
    obtain ⟨d, tail, hescape, hd⟩ := exists_cons_of_escape c
    have hhead : (escape c ++ (cs.flatMap escape ++ '"' :: rest)).head? ≠ some '"' := by
      rw [hescape]
      exact fun heq => hd (Option.some.inj heq)
    rw [List.flatMap_cons, List.append_assoc, readText, if_neg hhead, readChar_escape]
    show (readText n _ >>= _) = _
    rw [ih hlength]
    rfl

/-- Escaping makes no text shorter, so the length of what is written suffices as fuel. -/
theorem length_le_flatMap_escape (cs : List Char) : cs.length ≤ (cs.flatMap escape).length := by
  induction cs with
  | nil => exact Nat.zero_le _
  | cons c cs ih =>
    obtain ⟨d, tail, hescape, -⟩ := exists_cons_of_escape c
    rw [List.flatMap_cons, hescape, List.length_append, List.length_cons, List.length_cons]
    omega

/-! ## Whole numbers -/

/-- Nothing that follows goes on with a number. -/
def Delimited (s : List Char) : Prop :=
  ∀ c ∈ s.head?, c.isDigit = false ∧ some c ∉ [some '.', some 'e', some 'E']

/-- A number ends before a character that is no part of numbers. -/
theorem delimited_cons {c : Char} (rest : List Char)
    (h : c.isDigit = false ∧ some c ∉ [some '.', some 'e', some 'E']) : Delimited (c :: rest) := by
  intro d hd
  obtain rfl : c = d := Option.some.inj hd
  exact h

/-- Only zero has a zero in front. -/
theorem toDigits_of_head?_zero {n : Nat} (h : (Nat.toDigits 10 n).head? = some '0') :
    Nat.toDigits 10 n = ['0'] := by
  induction n using Nat.strongRecOn with
  | ind n ih =>
    by_cases hn : n < 10
    · rw [Nat.toDigits_of_lt_base hn] at h ⊢
      rw [Option.some.inj h]
    · have hfirst : (Nat.toDigits 10 (n / 10)).head? = some '0' := by
        obtain ⟨c, others, hcons⟩ :=
          List.exists_cons_of_ne_nil (Nat.toDigits_ne_nil (n := n / 10) (b := 10))
        rw [Nat.toDigits_of_base_le (by decide) (by omega), hcons] at h
        rw [hcons]
        exact h
      have hzero := ih (n / 10) (by omega) hfirst
      have hvalue : Nat.ofDigitChars 10 (Nat.toDigits 10 (n / 10)) 0 = n / 10 :=
        Nat.ofDigitChars_toDigits (by decide) (by decide)
      rw [hzero] at hvalue
      have hsmall : n / 10 = 0 := hvalue.symm
      omega

section Digits

variable {n : Nat} {rest : List Char} (h : Delimited rest)

include h

/-- The digits of a number are taken whole, as no digit follows. -/
theorem takeWhile_toDigits : (Nat.toDigits 10 n ++ rest).takeWhile Char.isDigit
    = Nat.toDigits 10 n := by
  rw [List.takeWhile_append_of_pos fun c hc =>
    Nat.isDigit_of_mem_toDigits (by decide) (by decide) hc]
  cases rest with
  | nil => exact List.append_nil _
  | cons c others =>
    have hc : ¬c.isDigit = true := Bool.eq_false_iff.mp (h c rfl).1
    rw [List.takeWhile_cons_of_neg hc, List.append_nil]

theorem dropWhile_toDigits : (Nat.toDigits 10 n ++ rest).dropWhile Char.isDigit = rest := by
  rw [List.dropWhile_append_of_pos fun c hc =>
    Nat.isDigit_of_mem_toDigits (by decide) (by decide) hc]
  cases rest with
  | nil => rfl
  | cons c others =>
    exact List.dropWhile_cons_of_neg (Bool.eq_false_iff.mp (h c rfl).1)

omit h in
/-- A whole number is written as digits, perhaps after a sign. -/
theorem toList_toString_int (n : Int) :
    (toString n).toList
      = (if n < 0 then ['-'] else []) ++ Nat.toDigits 10 n.natAbs := by
  have hdigits : ∀ m : Nat, (toString m).toList = Nat.toDigits 10 m := fun m => by
    rw [Nat.toString_eq_ofList_toDigits, String.toList_ofList]
  cases n with
  | ofNat m => exact hdigits m
  | negSucc m =>
    have hsign : "-".toList = ['-'] := by decide
    show ("-" ++ toString (m + 1)).toList = _
    rw [String.toList_append, hdigits, hsign, if_pos (Int.negSucc_lt_zero m)]
    rfl

omit h in
theorem exists_cons_of_toDigits (n : Nat) :
    ∃ c others, Nat.toDigits 10 n = c :: others ∧ c.isDigit = true := by
  obtain ⟨c, others, hcons⟩ :=
    List.exists_cons_of_ne_nil (Nat.toDigits_ne_nil (n := n) (b := 10))
  refine ⟨c, others, hcons, ?_⟩
  refine Nat.isDigit_of_mem_toDigits (b := 10) (n := n) (by decide) (by decide) ?_
  rw [hcons]
  exact List.mem_cons_self

/-- A whole number is read as it was. -/
theorem readInteger_toString (n : Int) :
    readInteger ((toString n).toList ++ rest) = some (.integer n, rest) := by
  let digits := Nat.toDigits 10 n.natAbs
  have hvalue : Nat.ofDigitChars 10 digits 0 = n.natAbs :=
    Nat.ofDigitChars_toDigits (by decide) (by decide)
  have hread : ¬(digits = [] ∨ (digits.head? = some '0' ∧ digits ≠ ['0'])
      ∨ rest.head? ∈ [some '.', some 'e', some 'E']) := by
    rintro (hnil | ⟨hzero, hmore⟩ | hfraction)
    · exact Nat.toDigits_ne_nil hnil
    · exact hmore (toDigits_of_head?_zero hzero)
    · cases rest with
      | nil => exact absurd hfraction (by decide)
      | cons c others => exact (h c rfl).2 hfraction
  have htake : (digits ++ rest).takeWhile Char.isDigit = digits := takeWhile_toDigits h
  have hdrop : (digits ++ rest).dropWhile Char.isDigit = rest := dropWhile_toDigits h
  rw [toList_toString_int]
  by_cases hn : n < 0
  · rw [if_pos hn]
    show readInteger ('-' :: (digits ++ rest)) = _
    unfold readInteger
    simp only [List.head?_cons, if_true, List.tail_cons, htake, hdrop, hvalue, if_neg hread]
    have hn' : -(n.natAbs : Int) = n := by omega
    rw [hn']
  · rw [if_neg hn]
    show readInteger (digits ++ rest) = _
    have hsign : ¬(digits ++ rest).head? = some '-' := by
      obtain ⟨c, others, hcons, hc⟩ := exists_cons_of_toDigits n.natAbs
      show ¬(Nat.toDigits 10 n.natAbs ++ rest).head? = some '-'
      rw [hcons]
      intro hhead
      rw [Option.some.inj hhead] at hc
      exact absurd hc (by decide)
    unfold readInteger
    simp only [if_neg hsign, htake, hdrop, hvalue, if_neg hread]
    have hn' : (n.natAbs : Int) = n := by omega
    rw [hn']

end Digits

/-! ## Items and members -/

/-- A text begins as a value does: not with a blank or a closing bracket. -/
def Opens (s : List Char) : Prop :=
  ∃ c others, s = c :: others ∧ isBlank c = false ∧ c ≠ ']' ∧ c ≠ '\x7d'

/-- Blanks in front are skipped, however many there are. -/
theorem skipBlank_append {gap : List Char} (h : ∀ c ∈ gap, isBlank c = true) (rest : List Char) :
    skipBlank (gap ++ rest) = skipBlank rest :=
  List.dropWhile_append_of_pos h

theorem skipBlank_cons {c : Char} (h : isBlank c = false) (rest : List Char) :
    skipBlank (c :: rest) = c :: rest :=
  List.dropWhile_cons_of_neg (Bool.eq_false_iff.mp h)

/-- No blank is skipped in front of a value. -/
theorem Opens.skipBlank_append {s : List Char} (h : Opens s) (rest : List Char) :
    skipBlank (s ++ rest) = s ++ rest := by
  obtain ⟨c, others, rfl, hblank, -⟩ := h
  exact skipBlank_cons hblank (others ++ rest)

/-- There is fuel left for a value, as it is not empty. -/
theorem Opens.exists_succ {s : List Char} (h : Opens s) {fuel : Nat} (hfuel : s.length ≤ fuel) :
    ∃ n, fuel = n + 1 := by
  obtain ⟨c, others, rfl, -⟩ := h
  rw [List.length_cons] at hfuel
  exact ⟨fuel - 1, by omega⟩

/-- Whatever the layout, it puts nothing but blanks between the items. -/
theorem isBlank_of_mem_lineBreak {layout : Layout} {depth : Nat} {c : Char}
    (h : c ∈ layout.lineBreak depth) : isBlank c = true := by
  cases layout with
  | compact => exact absurd h List.not_mem_nil
  | pretty =>
    rcases List.mem_cons.mp h with rfl | hspace
    · decide
    · rw [List.eq_of_mem_replicate hspace]
      decide

section Sequences

variable {α : Type} {item : List Char → Option (α × List Char)} {write : α → List Char}
  {gap last rest : List Char} {close : Char} (hgap : ∀ c ∈ gap, isBlank c = true)
  (hlast : ∀ c ∈ last, isBlank c = true) (hclose : close = ']' ∨ close = '\x7d')

/-- What comes after the first of some things: the others, each after a comma, and the closing
bracket. -/
def writtenAfter (write : α → List Char) (gap last : List Char) (close : Char) (others : List α)
    (rest : List Char) : List Char :=
  others.flatMap (fun b => ',' :: (gap ++ write b)) ++ (last ++ close :: rest)

/-- Each of the others is shorter than all of them together with the closing bracket. -/
theorem length_lt_writtenAfter {b : α} {others : List α} (hb : b ∈ others) :
    (write b).length < (writtenAfter write gap last close others rest).length := by
  obtain ⟨front, back, rfl⟩ := List.append_of_mem hb
  simp only [writtenAfter, List.flatMap_append, List.flatMap_cons, List.length_append,
    List.length_cons]
  omega

/-- Each further item takes at least one character, so the length of the text suffices as fuel. -/
theorem length_others_lt_writtenAfter (others : List α) :
    others.length < (writtenAfter write gap last close others rest).length := by
  unfold writtenAfter
  induction others with
  | nil =>
    rw [List.flatMap_nil, List.nil_append, List.length_append, List.length_cons, List.length_nil]
    omega
  | cons b more ih =>
    simp only [List.flatMap_cons, List.length_append, List.length_cons] at ih ⊢
    omega

include hlast hclose

/-- A number may stand in front of further items or of the closing bracket. -/
theorem delimited_writtenAfter (others : List α) :
    Delimited (writtenAfter write gap last close others rest) := by
  cases others with
  | cons b more => exact delimited_cons _ (by decide)
  | nil =>
    cases last with
    | nil => rcases hclose with rfl | rfl <;> exact delimited_cons _ (by decide)
    | cons c more =>
      have hall : [' ', '\n', '\r', '\t'].all (fun d =>
          d.isDigit = false ∧ some d ∉ [some '.', some 'e', some 'E']) = true := by decide
      have hblank : c ∈ [' ', '\n', '\r', '\t'] := of_decide_eq_true (hlast c List.mem_cons_self)
      exact delimited_cons _ (of_decide_eq_true (List.all_eq_true.mp hall c hblank))

include hgap

/-- Things that are written with commas between them are read one by one. -/
theorem readSequence_written {fuel : Nat} {a : α} {others : List α}
    (hitem : ∀ b ∈ a :: others, Opens (write b)
      ∧ ∀ rest, Delimited rest → item (write b ++ rest) = some (b, rest))
    (hfuel : others.length < fuel) :
    readSequence item close fuel (gap ++ (write a ++ writtenAfter write gap last close others rest))
      = some (a :: others, rest) := by
  have hnot : isBlank close = false ∧ ',' ≠ close := by
    rcases hclose with rfl | rfl <;> decide
  induction others generalizing a fuel with
  | nil =>
    obtain ⟨n, rfl⟩ : ∃ n, fuel = n + 1 := ⟨fuel - 1, by omega⟩
    obtain ⟨hopens, hread⟩ := hitem a List.mem_cons_self
    have hdelimited : Delimited (writtenAfter write gap last close [] rest) :=
      delimited_writtenAfter hlast hclose []
    have hfirst := hread _ hdelimited
    have hend : skipBlank (writtenAfter write gap last close [] rest) = close :: rest := by
      show skipBlank (last ++ close :: rest) = _
      rw [skipBlank_append hlast, skipBlank_cons hnot.1]
    rw [readSequence, skipBlank_append hgap, hopens.skipBlank_append, hfirst]
    simp only [Option.bind_eq_bind, Option.bind_some, hend, if_true]
    rfl
  | cons b more ih =>
    obtain ⟨n, rfl⟩ : ∃ n, fuel = n + 1 := ⟨fuel - 1, by omega⟩
    obtain ⟨hopens, hread⟩ := hitem a List.mem_cons_self
    have hdelimited : Delimited (writtenAfter write gap last close (b :: more) rest) :=
      delimited_writtenAfter hlast hclose (b :: more)
    have hfirst := hread _ hdelimited
    have hothers := ih (fun d hd => hitem d (List.mem_cons_of_mem _ hd))
      (show more.length < n by rw [List.length_cons] at hfuel; omega)
    have hcomma : skipBlank (writtenAfter write gap last close (b :: more) rest)
        = ',' :: (gap ++ (write b ++ writtenAfter write gap last close more rest)) := by
      unfold writtenAfter
      rw [List.flatMap_cons, List.cons_append, List.cons_append, skipBlank_cons (by decide)]
      simp only [List.append_assoc]
    rw [readSequence, skipBlank_append hgap, hopens.skipBlank_append, hfirst]
    simp only [Option.bind_eq_bind, Option.bind_some, hcomma, if_neg hnot.2, if_true, hothers]
    rfl

/-- The same between brackets, if each thing is read as it is written where there is room for it. -/
theorem readList_written {fuel : Nat} {a : α} {others : List α}
    (hfuel : (gap ++ (write a ++ writtenAfter write gap last close others [])).length ≤ fuel)
    (hitem : ∀ b ∈ a :: others, Opens (write b)
      ∧ ((write b).length ≤ fuel →
        ∀ rest, Delimited rest → item (write b ++ rest) = some (b, rest))) :
    readList item close fuel (gap ++ (write a ++ writtenAfter write gap last close others rest))
      = some (a :: others, rest) := by
  rw [List.length_append, List.length_append] at hfuel
  have hcount : others.length < (writtenAfter write gap last close others []).length :=
    length_others_lt_writtenAfter others
  have hroom : ∀ b ∈ a :: others, (write b).length ≤ fuel := by
    refine List.forall_mem_cons.mpr ⟨by omega, fun b hb => ?_⟩
    have hlength : (write b).length < (writtenAfter write gap last close others []).length :=
      length_lt_writtenAfter hb
    omega
  obtain ⟨hopens, -⟩ := hitem a List.mem_cons_self
  have hfirst : ¬(skipBlank
      (gap ++ (write a ++ writtenAfter write gap last close others rest))).head? = some close := by
    rw [skipBlank_append hgap, hopens.skipBlank_append]
    obtain ⟨c, tail, hcons, -, hbracket, hbrace⟩ := hopens
    rw [hcons]
    intro hhead
    obtain rfl : c = close := Option.some.inj hhead
    exact hclose.elim hbracket hbrace
  rw [readList, if_neg hfirst]
  exact readSequence_written hgap hlast hclose
    (fun b hb => ⟨(hitem b hb).1, (hitem b hb).2 (hroom b hb)⟩) (by omega)

end Sequences

/-! ## Values -/

/-- A value without numbers of the format binary64. -/
inductive Plain : Json → Prop where
  | null : Plain .null
  | bool (b : Bool) : Plain (.bool b)
  | integer (n : Int) : Plain (.integer n)
  | text (s : String) : Plain (.text s)
  | array (items : List Json) : (∀ item ∈ items, Plain item) → Plain (.array items)
  | object (members : List (String × Json)) : (∀ m ∈ members, Plain m.2) → Plain (.object members)

theorem ofOption_eq_elim (s : Option String) : ofOption s = s.elim .null .text := by
  cases s <;> rfl

theorem plain_ofOption (s : Option String) : (ofOption s).Plain := by
  cases s with
  | none => exact .null
  | some s => exact .text s

/-- A member as it is written. -/
def writeMember (layout : Layout) (depth : Nat) (m : String × Json) : List Char :=
  writeText m.1 ++ layout.colon ++ write layout depth m.2

/-- Each further item comes after a comma and a line break. -/
theorem writeItems_eq (layout : Layout) (depth : Nat) (items : List Json) :
    writeItems layout depth items
      = items.flatMap fun item => ',' :: (layout.lineBreak depth ++ write layout depth item) := by
  induction items with
  | nil => rfl
  | cons item others ih =>
    rw [writeItems, ih, List.flatMap_cons]
    rfl

theorem writeMembers_eq (layout : Layout) (depth : Nat) (members : List (String × Json)) :
    writeMembers layout depth members
      = members.flatMap fun m => ',' :: (layout.lineBreak depth ++ writeMember layout depth m) := by
  induction members with
  | nil => rfl
  | cons m others ih =>
    rw [writeMembers, ih, List.flatMap_cons, writeMember]
    simp only [List.append_assoc, List.cons_append]

/-- A number begins with a sign or a digit. -/
theorem exists_cons_of_toString (n : Int) :
    ∃ c others, (toString n).toList = c :: others ∧ (c = '-' ∨ c.isDigit = true) := by
  obtain ⟨c, others, hcons, hc⟩ := exists_cons_of_toDigits n.natAbs
  rw [toList_toString_int, hcons]
  by_cases hn : n < 0
  · exact ⟨'-', c :: others, by rw [if_pos hn]; rfl, .inl rfl⟩
  · exact ⟨c, others, by rw [if_neg hn]; rfl, .inr hc⟩

/-- None of these characters begins a number. -/
theorem not_mem_of_number {c : Char} (h : c = '-' ∨ c.isDigit = true) :
    c ∉ [' ', '\n', '\r', '\t', ']', '\x7d', '"', '[', '\x7b', 'n', 't', 'f'] := by
  have hall : [' ', '\n', '\r', '\t', ']', '\x7d', '"', '[', '\x7b', 'n', 't', 'f'].all
      (fun d => ¬(d = '-' ∨ d.isDigit = true)) = true := by decide
  exact fun hmem => of_decide_eq_true (List.all_eq_true.mp hall c hmem) h

/-- What is written of a value begins with no blank. -/
theorem Plain.opens {j : Json} (h : j.Plain) (layout : Layout) (depth : Nat) :
    Opens (write layout depth j) := by
  have hbracket : ∀ others, Opens ('[' :: others) :=
    fun others => ⟨'[', others, rfl, by decide, by decide, by decide⟩
  have hbrace : ∀ others, Opens ('\x7b' :: others) :=
    fun others => ⟨'\x7b', others, rfl, by decide, by decide, by decide⟩
  cases h with
  | null => exact ⟨'n', _, rfl, by decide, by decide, by decide⟩
  | bool b => cases b <;> exact ⟨_, _, rfl, by decide, by decide, by decide⟩
  | integer n =>
    obtain ⟨c, others, hcons, hc⟩ := exists_cons_of_toString n
    have hnot := not_mem_of_number hc
    refine ⟨c, others, hcons, decide_eq_false fun hblank => ?_, ?_, ?_⟩
    · exact hnot (List.mem_append_left _ hblank)
    · rintro rfl
      exact hnot (by decide)
    · rintro rfl
      exact hnot (by decide)
  | text s => exact ⟨'"', _, rfl, by decide, by decide, by decide⟩
  | array items hitems => cases items <;> exact hbracket _
  | object members hmembers => cases members <;> exact hbrace _

/-! ## What is written is read -/

/-- A value that does not begin as a text or a bracket does is one word. -/
theorem readValue_of_word {fuel : Nat} {c : Char} (h : c ∉ ['"', '[', '\x7b']) (s : List Char) :
    readValue (fuel + 1) (c :: s) = readWord (c :: s) := by
  simp only [List.mem_cons, List.not_mem_nil, or_false, not_or] at h
  rw [readValue, if_neg h.1, if_neg h.2.1, if_neg h.2.2]

/-- A whole number that is written is read as itself. -/
theorem readWord_toString {rest : List Char} (h : Delimited rest) (n : Int) :
    readWord ((toString n).toList ++ rest) = some (.integer n, rest) := by
  obtain ⟨c, others, hcons, hc⟩ := exists_cons_of_toString n
  have hnot := not_mem_of_number hc
  -- no word begins as a number does
  have hword : ∀ (d : Char) (word : List Char) (k : Nat), d ∈ ['n', 't', 'f'] →
      ((toString n).toList ++ rest).take (k + 1) ≠ d :: word := by
    intro d word k hd heq
    rw [hcons] at heq
    obtain rfl : c = d := (List.cons.inj heq).1
    exact hnot (List.mem_append_right [' ', '\n', '\r', '\t', ']', '\x7d', '"', '[', '\x7b'] hd)
  have hnull : ((toString n).toList ++ rest).take 4 ≠ "null".toList :=
    hword 'n' ['u', 'l', 'l'] 3 (by decide)
  have htrue : ((toString n).toList ++ rest).take 4 ≠ "true".toList :=
    hword 't' ['r', 'u', 'e'] 3 (by decide)
  have hfalse : ((toString n).toList ++ rest).take 5 ≠ "false".toList :=
    hword 'f' ['a', 'l', 's', 'e'] 4 (by decide)
  rw [readWord, if_neg hnull, if_neg htrue, if_neg hfalse, readInteger_toString h]

theorem readValue_toString {rest : List Char} (h : Delimited rest) (fuel : Nat) (n : Int) :
    readValue (fuel + 1) ((toString n).toList ++ rest) = some (.integer n, rest) := by
  have hread := readWord_toString h n
  obtain ⟨c, others, hcons, hc⟩ := exists_cons_of_toString n
  rw [hcons] at hread ⊢
  have hnot : c ∉ ['"', '[', '\x7b'] := by
    intro hmem
    refine not_mem_of_number hc (List.mem_append_right [' ', '\n', '\r', '\t', ']', '\x7d'] ?_)
    exact List.mem_append_left ['n', 't', 'f'] hmem
  exact (readValue_of_word hnot _).trans hread

/-- A text that is written is read as itself, up to the quote that ends it. -/
theorem readText_writeText {fuel : Nat} {s : String} (rest : List Char)
    (h : (writeText s).length ≤ fuel + 1) :
    readText fuel (s.toList.flatMap escape ++ '"' :: rest) = some (s.toList, rest) := by
  have hlength := length_le_flatMap_escape s.toList
  rw [writeText, List.length_append, List.length_cons, List.length_singleton] at h
  exact readText_escape s.toList rest (by omega)

theorem readValue_writeText {fuel : Nat} {s : String} (rest : List Char)
    (h : (writeText s).length ≤ fuel + 1) :
    readValue (fuel + 1) (writeText s ++ rest) = some (.text s, rest) := by
  have hsplit : writeText s ++ rest = '"' :: (s.toList.flatMap escape ++ '"' :: rest) := by
    rw [writeText, List.append_assoc, List.cons_append]
    rfl
  rw [hsplit, readValue, if_pos rfl, readText_writeText rest h]
  show some (Json.text (.ofList s.toList), rest) = _
  rw [String.ofList_toList]

/-- A member is read as it is written, if its value is. -/
theorem readMember_writeMember {layout : Layout} {depth fuel : Nat} {m : String × Json}
    (hopens : Opens (write layout depth m.2)) {rest : List Char}
    {value : List Char → Option (Json × List Char)}
    (hvalue : value (write layout depth m.2 ++ rest) = some (m.2, rest))
    (h : (writeText m.1).length ≤ fuel + 1) :
    readMember value fuel (writeMember layout depth m ++ rest) = some (m, rest) := by
  have hsplit : writeMember layout depth m ++ rest = '"' :: (m.1.toList.flatMap escape ++ '"'
      :: (layout.colon ++ (write layout depth m.2 ++ rest))) := by
    rw [writeMember, writeText]
    simp only [List.append_assoc, List.cons_append, List.nil_append]
  have hname := readText_writeText (layout.colon ++ (write layout depth m.2 ++ rest)) h
  have hcolon : skipBlank (layout.colon ++ (write layout depth m.2 ++ rest))
      = ':' :: (layout.colon.tail ++ (write layout depth m.2 ++ rest)) := by
    cases layout <;> exact skipBlank_cons (by decide) _
  have hafter : skipBlank (layout.colon.tail ++ (write layout depth m.2 ++ rest))
      = write layout depth m.2 ++ rest := by
    have hblank : layout.colon.tail.all isBlank = true := by cases layout <;> rfl
    rw [skipBlank_append (List.all_eq_true.mp hblank), hopens.skipBlank_append]
  rw [hsplit, readMember]
  simp only [List.head?_cons, List.tail_cons, if_true, hname, Option.bind_eq_bind, Option.bind_some,
    hcolon, hafter, hvalue, String.ofList_toList]
  rfl

/-! ## Documents -/

/-- A list as it is written: its first item, and what comes after that. -/
theorem write_array_cons (layout : Layout) (depth : Nat) (item : Json) (items : List Json)
    (rest : List Char) :
    write layout depth (.array (item :: items)) ++ rest
      = '[' :: (layout.lineBreak (depth + 1) ++ (write layout (depth + 1) item
        ++ writtenAfter (write layout (depth + 1)) (layout.lineBreak (depth + 1))
          (layout.lineBreak depth) ']' items rest)) := by
  rw [write, writeItems_eq, writtenAfter]
  simp only [List.append_assoc, List.cons_append, List.nil_append]

theorem write_object_cons (layout : Layout) (depth : Nat) (m : String × Json)
    (members : List (String × Json)) (rest : List Char) :
    write layout depth (.object (m :: members)) ++ rest
      = '\x7b' :: (layout.lineBreak (depth + 1) ++ (writeMember layout (depth + 1) m
        ++ writtenAfter (writeMember layout (depth + 1)) (layout.lineBreak (depth + 1))
          (layout.lineBreak depth) '\x7d' members rest)) := by
  rw [write, writeMembers_eq, writtenAfter, writeMember]
  simp only [List.append_assoc, List.cons_append, List.nil_append]

theorem opens_writeMember (layout : Layout) (depth : Nat) (m : String × Json) :
    Opens (writeMember layout depth m) :=
  ⟨'"', _, rfl, by decide, by decide, by decide⟩

/-- A plain value is read as it is written, in either layout and at any depth. -/
theorem Plain.readValue_write {j : Json} (h : j.Plain) (layout : Layout) (depth : Nat) {fuel : Nat}
    (hfuel : (write layout depth j).length ≤ fuel) {rest : List Char} (hrest : Delimited rest) :
    readValue fuel (write layout depth j ++ rest) = some (j, rest) := by
  induction h generalizing depth fuel rest with
  | null =>
    obtain ⟨n, rfl⟩ := Plain.null.opens layout depth |>.exists_succ hfuel
    exact readValue_of_word (by decide) _
  | bool b =>
    obtain ⟨n, rfl⟩ := (Plain.bool b).opens layout depth |>.exists_succ hfuel
    cases b <;> exact readValue_of_word (by decide) _
  | integer m =>
    obtain ⟨n, rfl⟩ := (Plain.integer m).opens layout depth |>.exists_succ hfuel
    exact readValue_toString hrest n m
  | text s =>
    obtain ⟨n, rfl⟩ := (Plain.text s).opens layout depth |>.exists_succ hfuel
    exact readValue_writeText rest hfuel
  | array items hitems ih =>
    obtain ⟨n, rfl⟩ := (Plain.array items hitems).opens layout depth |>.exists_succ hfuel
    cases items with
    | nil => rfl
    | cons item others =>
      rw [← List.append_nil (write layout depth _), write_array_cons, List.length_cons] at hfuel
      rw [write_array_cons, readValue, if_neg (by decide), if_pos rfl,
        readList_written (fun c => isBlank_of_mem_lineBreak) (fun c => isBlank_of_mem_lineBreak)
          (.inl rfl) (Nat.le_of_succ_le_succ hfuel) fun b hb =>
            ⟨(hitems b hb).opens _ _, fun hroom rest => ih b hb (depth + 1) hroom⟩]
      rfl
  | object members hmembers ih =>
    obtain ⟨n, rfl⟩ := (Plain.object members hmembers).opens layout depth |>.exists_succ hfuel
    cases members with
    | nil => rfl
    | cons m others =>
      have hmember : ∀ b ∈ m :: others, Opens (writeMember layout (depth + 1) b)
          ∧ ((writeMember layout (depth + 1) b).length ≤ n → ∀ rest, Delimited rest →
            readMember (readValue n) n (writeMember layout (depth + 1) b ++ rest)
              = some (b, rest)) := by
        intro b hb
        refine ⟨opens_writeMember layout (depth + 1) b, fun hroom rest hrest => ?_⟩
        rw [writeMember, List.length_append, List.length_append] at hroom
        have hvalue : readValue n (write layout (depth + 1) b.2 ++ rest) = some (b.2, rest) :=
          ih b hb (depth + 1) (by omega) hrest
        exact readMember_writeMember ((hmembers b hb).opens _ _) hvalue (by omega)
      rw [← List.append_nil (write layout depth _), write_object_cons, List.length_cons] at hfuel
      rw [write_object_cons, readValue, if_neg (by decide), if_neg (by decide), if_pos rfl,
        readList_written (fun c => isBlank_of_mem_lineBreak) (fun c => isBlank_of_mem_lineBreak)
          (.inr rfl) (Nat.le_of_succ_le_succ hfuel) hmember]
      rfl

/-- A document with a plain value in it is read as the value. -/
theorem Plain.read?_pretty {j : Json} (h : j.Plain) : read? j.pretty = some j := by
  have hlist : j.pretty.toList = write .pretty 0 j ++ [] := by
    rw [pretty, String.toList_ofList, List.append_nil]
  have hread : readValue ((write .pretty 0 j ++ []).length + 1) (write .pretty 0 j ++ [])
      = some (j, []) := by
    refine h.readValue_write .pretty 0 ?_ fun c hc => nomatch hc
    rw [List.append_nil]
    exact Nat.le_succ _
  rw [read?, hlist, (h.opens .pretty 0).skipBlank_append, hread]
  rfl

end Json

end CommandFront
