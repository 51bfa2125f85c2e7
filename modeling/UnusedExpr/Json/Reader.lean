import UnusedExpr.Json.Basic

/-!
# Reading JSON text

Each function takes the characters ahead and gives what it read with the characters left, or nothing if
the text is malformed. `fuel` bounds the number of steps; the length of the text is always enough. A
field that an object repeats keeps its first place and takes its last value. So what is read is well formed
(`sound`): the fields of an object are kept as a table, and a number that leaves a word becomes a double.
-/

namespace UnusedExpr.Json.Reader

def skipBlanks (s : List Char) : List Char :=
  s.dropWhile fun c => c = ' ' || c = '\n' || c = '\r' || c = '\t'

/-- The characters after `word`, if the text starts with it. -/
def literal (word : String) (value : Json) (s : List Char) : Option (Json × List Char) :=
  if word.toList.isPrefixOf s then some (value, s.drop word.length) else none

/-! ### Strings -/

def hexDigit? (c : Char) : Option Nat :=
  if '0' ≤ c ∧ c ≤ '9' then some (c.toNat - '0'.toNat)
  else if 'a' ≤ c ∧ c ≤ 'f' then some (c.toNat - 'a'.toNat + 10)
  else if 'A' ≤ c ∧ c ≤ 'F' then some (c.toNat - 'A'.toNat + 10)
  else none

/-- Four hexadecimal digits: one UTF-16 unit. -/
def unit16 : List Char → Option (Nat × List Char)
  | a :: b :: c :: d :: rest => do
    let value := (((← hexDigit? a) * 16 + (← hexDigit? b)) * 16 + (← hexDigit? c)) * 16 + (← hexDigit? d)
    some (value, rest)
  | _ => none

/-- A character written as one UTF-16 unit, or as two with a second `\u`. -/
def unicodeEscape (s : List Char) : Option (Char × List Char) := do
  let (first, rest) ← unit16 s
  if first < 0xD800 ∨ 0xDFFF < first then some (Char.ofNat first, rest)
  else if 0xDC00 ≤ first then none
  else match rest with
    | '\\' :: 'u' :: more => do
      let (second, rest) ← unit16 more
      if 0xDC00 ≤ second ∧ second ≤ 0xDFFF then
        some (Char.ofNat (0x10000 + (first - 0xD800) * 0x400 + (second - 0xDC00)), rest)
      else none
    | _ => none

/-- The character named by what follows a backslash. -/
def escaped : List Char → Option (Char × List Char)
  | 'u' :: rest => unicodeEscape rest
  | 'b' :: rest => some (Char.ofNat 8, rest)
  | 'f' :: rest => some (Char.ofNat 12, rest)
  | 'n' :: rest => some ('\n', rest)
  | 'r' :: rest => some ('\r', rest)
  | 't' :: rest => some ('\t', rest)
  | c :: rest => if c = '"' ∨ c = '\\' ∨ c = '/' then some (c, rest) else none
  | [] => none

/-- The characters of a string after its opening quote, in front of those already read. -/
def stringBody : Nat → List Char → List Char → Option (List Char × List Char)
  | 0, _, _ => none
  | fuel + 1, done, s =>
    match s with
    | [] => none
    | c :: rest =>
      if c = '"' then some (done.reverse, rest)
      else if c = '\\' then do
        let (c, rest) ← escaped rest
        stringBody fuel (c :: done) rest
      else if c.toNat < 32 then none
      else stringBody fuel (c :: done) rest

/-- A string, its opening quote included. -/
def string (fuel : Nat) (s : List Char) : Option (String × List Char) :=
  match s with
  | '"' :: rest => (stringBody fuel [] rest).map fun (chars, rest) => (String.ofList chars, rest)
  | _ => none

/-! ### Numbers -/

/-- The largest significand that is kept exactly; digits past it are dropped. -/
def wordLimit : Nat := twoTo 64 - 1

/-- The digits read so far: `significand · 10^power`. -/
structure Digits where
  significand : Nat
  fits : significand ≤ wordLimit
  power : Int
  /-- A digit did not fit, so that no further digit is taken. -/
  full : Bool

def Digits.start : Digits := ⟨0, Nat.zero_le _, 0, false⟩

/-- The digit taken into the significand, if it fits. -/
def Digits.take? (d : Digits) (c : Char) : Option { n : Nat // n ≤ wordLimit } :=
  let wider := d.significand * 10 + (c.toNat - '0'.toNat)
  if stops : d.full ∨ wordLimit < wider then none else some ⟨wider, Nat.le_of_not_lt (not_or.mp stops).2⟩

/-- A digit before the point. -/
def Digits.whole (d : Digits) (c : Char) : Digits :=
  match d.take? c with
  | some ⟨wider, fits⟩ => { d with significand := wider, fits := fits }
  | none => { d with power := d.power + 1, full := true }

/-- A digit after the point. -/
def Digits.fraction (d : Digits) (c : Char) : Digits :=
  match d.take? c with
  | some ⟨wider, fits⟩ => { d with significand := wider, fits := fits, power := d.power - 1 }
  | none => { d with full := true }

def digitRun (s : List Char) : List Char × List Char :=
  s.span Char.isDigit

/-- An exponent after its `e`. -/
def exponent (s : List Char) : Option (Int × List Char) :=
  let (sign, s) : Int × List Char := match s with
    | '-' :: rest => (-1, rest)
    | '+' :: rest => (1, rest)
    | _ => (1, s)
  match digitRun s with
  | ([], _) => none
  | (figures, rest) => some (sign * figures.foldl (fun n c => n * 10 + (c.toNat - '0'.toNat)) 0, rest)

/-- The double `±significand · 10^power`, unless that is too large. -/
def Digits.float? (d : Digits) (negative : Bool) (power : Int) : Option Number :=
  (Magnitude.ofDecimal d.significand power).map fun magnitude => .float ⟨negative, magnitude⟩

/-- A number without a point or an exponent is an integer if it fits a word: 64 bits, or 63 bits below zero.
    A negative zero is a double. -/
def Digits.number? (d : Digits) (negative : Bool) : Option Number :=
  if d.full ∨ (negative ∧ (d.significand = 0 ∨ twoTo 63 < d.significand)) then d.float? negative d.power
  else some (.int (if negative then -d.significand else d.significand))

/-- A double whose digits may be followed by an exponent. -/
def scaled (negative : Bool) (d : Digits) (s : List Char) : Option (Number × List Char) :=
  match s with
  | 'e' :: rest | 'E' :: rest => do
    let (power, rest) ← exponent rest
    some (← d.float? negative (d.power + power), rest)
  | _ => (d.float? negative d.power).map (·, s)

/-- A number with its sign taken off. -/
def unsigned (negative : Bool) (s : List Char) : Option (Number × List Char) :=
  let (figures, s) := digitRun s
  if figures.isEmpty ∨ (figures.length > 1 ∧ figures.head? = some '0') then none
  else
    let whole := figures.foldl Digits.whole .start
    match s with
    | '.' :: rest =>
      match digitRun rest with
      | ([], _) => none
      | (figures, rest) => scaled negative (figures.foldl Digits.fraction { whole with full := false }) rest
    | 'e' :: _ | 'E' :: _ => scaled negative whole s
    | _ => (whole.number? negative).map (·, s)

def number (s : List Char) : Option (Number × List Char) :=
  match s with
  | '-' :: rest => unsigned true rest
  | _ => unsigned false s

/-! ### Values -/

mutual

/-- A value, with blanks allowed before it. -/
def value : Nat → List Char → Option (Json × List Char)
  | 0, _ => none
  | fuel + 1, s =>
    match skipBlanks s with
    | [] => none
    | c :: rest =>
      if c = '[' then
        match skipBlanks rest with
        | ']' :: rest => some (.array [], rest)
        | s => elements fuel [] s
      else if c = '\x7b' then
        match skipBlanks rest with
        | '\x7d' :: rest => some (.object [], rest)
        | s => fields fuel .empty s
      else if c = '"' then (string fuel (c :: rest)).map fun (s, rest) => (.string s, rest)
      else if c = 'n' then literal "null" .null (c :: rest)
      else if c = 't' then literal "true" (.bool true) (c :: rest)
      else if c = 'f' then literal "false" (.bool false) (c :: rest)
      else (number (c :: rest)).map fun (n, rest) => (.number n, rest)

/-- The elements of an array that are still to come, after those in `done`, which are in reverse. -/
def elements : Nat → List Json → List Char → Option (Json × List Char)
  | 0, _, _ => none
  | fuel + 1, done, s => do
    let (element, rest) ← value fuel s
    match skipBlanks rest with
    | ',' :: rest => elements fuel (element :: done) rest
    | ']' :: rest => some (.array (element :: done).reverse, rest)
    | _ => none

/-- The fields of an object that are still to come, after those in `done`. -/
def fields : Nat → Fields → List Char → Option (Json × List Char)
  | 0, _, _ => none
  | fuel + 1, done, s => do
    let (key, rest) ← string fuel (skipBlanks s)
    match skipBlanks rest with
    | ':' :: rest => do
      let (element, rest) ← value fuel rest
      let done := done.insert key element
      match skipBlanks rest with
      | ',' :: rest => fields fuel done rest
      | '\x7d' :: rest => some (.object done.entries, rest)
      | _ => none
    | _ => none

end

/-! ### What is read is well formed -/

theorem Digits.fits_of_float? {d : Digits} {negative : Bool} {power : Int} {n : Number}
    (read : d.float? negative power = some n) : n.Fits := by
  obtain ⟨magnitude, -, rfl⟩ := Option.map_eq_some_iff.mp read
  trivial

theorem Digits.fits_of_number? {d : Digits} {negative : Bool} {n : Number}
    (read : d.number? negative = some n) : n.Fits := by
  unfold number? at read
  split at read
  · exact fits_of_float? read
  · next whole =>
    have fits := d.fits
    have word : wordLimit + 1 = twoTo 64 := by decide
    obtain rfl := Option.some.inj read
    cases negative with
    | false =>
      change -(twoTo 63 : Int) ≤ d.significand ∧ (d.significand : Int) < twoTo 64
      omega
    | true =>
      have least : ¬twoTo 63 < d.significand := fun large => whole (Or.inr ⟨rfl, Or.inr large⟩)
      change -(twoTo 63 : Int) ≤ -d.significand ∧ -(d.significand : Int) < twoTo 64
      omega

theorem fits_of_scaled {negative : Bool} {d : Digits} {s rest : List Char} {n : Number}
    (read : scaled negative d s = some (n, rest)) : n.Fits := by
  unfold scaled at read
  split at read
  case h_3 =>
    obtain ⟨_, float, same⟩ := Option.map_eq_some_iff.mp read
    obtain ⟨rfl, -⟩ := Prod.mk.inj same
    exact Digits.fits_of_float? float
  all_goals
    obtain ⟨⟨power, after⟩, -, inner⟩ := Option.bind_eq_some_iff.mp read
    obtain ⟨_, float, same⟩ := Option.bind_eq_some_iff.mp inner
    obtain ⟨rfl, -⟩ := Prod.mk.inj (Option.some.inj same)
    exact Digits.fits_of_float? float

theorem fits_of_unsigned {negative : Bool} {s rest : List Char} {n : Number}
    (read : unsigned negative s = some (n, rest)) : n.Fits := by
  unfold unsigned at read
  dsimp only at read
  split at read
  · cases read
  · split at read
    · split at read
      · cases read
      · exact fits_of_scaled read
    · exact fits_of_scaled read
    · exact fits_of_scaled read
    · obtain ⟨_, number, same⟩ := Option.map_eq_some_iff.mp read
      obtain ⟨rfl, -⟩ := Prod.mk.inj same
      exact Digits.fits_of_number? number

theorem fits_of_number {s rest : List Char} {n : Number} (read : number s = some (n, rest)) : n.Fits := by
  unfold number at read
  split at read <;> exact fits_of_unsigned read

/-- What the readers of values give with this much fuel is well formed, if what they were given is. -/
structure Sound (fuel : Nat) : Prop where
  value : ∀ {s v rest}, value fuel s = some (v, rest) → v.WellFormed
  elements : ∀ {done s v rest}, (∀ element ∈ done, element.WellFormed) →
    elements fuel done s = some (v, rest) → v.WellFormed
  fields : ∀ {done s v rest}, (∀ field ∈ done.entries, field.2.WellFormed) →
    fields fuel done s = some (v, rest) → v.WellFormed

variable {fuel : Nat} {s rest : List Char} {v : Json}

theorem wellFormed_of_literal {word : String} {w : Json} (fine : w.WellFormed)
    (read : literal word w s = some (v, rest)) : v.WellFormed := by
  unfold literal at read
  split at read
  · obtain ⟨rfl, -⟩ := Prod.mk.inj (Option.some.inj read)
    exact fine
  · cases read

theorem Sound.value_succ (sound : Sound fuel) (read : Reader.value (fuel + 1) s = some (v, rest)) :
    v.WellFormed := by
  rw [Reader.value] at read
  split at read
  · cases read
  split at read
  · -- An array.
    split at read
    · obtain ⟨rfl, -⟩ := Prod.mk.inj (Option.some.inj read)
      exact .array (by simp)
    · exact sound.elements (by simp) read
  split at read
  · -- An object.
    split at read
    · obtain ⟨rfl, -⟩ := Prod.mk.inj (Option.some.inj read)
      exact .object .empty (by simp)
    · exact sound.fields (by simp) read
  split at read
  · obtain ⟨text, -, same⟩ := Option.map_eq_some_iff.mp read
    obtain ⟨rfl, -⟩ := Prod.mk.inj same
    exact .string _
  split at read
  · exact wellFormed_of_literal .null read
  split at read
  · exact wellFormed_of_literal (.bool true) read
  split at read
  · exact wellFormed_of_literal (.bool false) read
  · obtain ⟨number, found, same⟩ := Option.map_eq_some_iff.mp read
    obtain ⟨rfl, -⟩ := Prod.mk.inj same
    exact .number (fits_of_number found)

theorem Sound.elements_succ {done : List Json} (sound : Sound fuel) (fine : ∀ element ∈ done, element.WellFormed)
    (read : Reader.elements (fuel + 1) done s = some (v, rest)) : v.WellFormed := by
  rw [Reader.elements] at read
  obtain ⟨⟨element, after⟩, first, next⟩ := Option.bind_eq_some_iff.mp read
  have more : ∀ e ∈ element :: done, e.WellFormed := List.forall_mem_cons.mpr ⟨sound.value first, fine⟩
  dsimp only at next
  split at next
  · exact sound.elements more next
  · obtain ⟨rfl, -⟩ := Prod.mk.inj (Option.some.inj next)
    exact .array fun e member => more e (List.mem_reverse.mp member)
  · cases next

theorem Sound.fields_succ {done : Fields} (sound : Sound fuel) (fine : ∀ field ∈ done.entries, field.2.WellFormed)
    (read : Reader.fields (fuel + 1) done s = some (v, rest)) : v.WellFormed := by
  rw [Reader.fields] at read
  obtain ⟨⟨key, after⟩, -, next⟩ := Option.bind_eq_some_iff.mp read
  dsimp only at next
  split at next
  case h_2 => cases next
  obtain ⟨⟨element, after⟩, first, next⟩ := Option.bind_eq_some_iff.mp next
  have more : ∀ field ∈ (done.insert key element).entries, field.2.WellFormed := by
    intro field member
    rcases Assoc.mem_of_mem_put member with rfl | earlier
    · exact sound.value first
    · exact fine field earlier
  dsimp only at next
  split at next
  · exact sound.fields more next
  · obtain ⟨rfl, -⟩ := Prod.mk.inj (Option.some.inj next)
    exact .object _ more
  · cases next

theorem sound : ∀ fuel, Sound fuel
  | 0 => ⟨nofun, nofun, nofun⟩
  | fuel + 1 => ⟨(sound fuel).value_succ, (sound fuel).elements_succ, (sound fuel).fields_succ⟩

end UnusedExpr.Json.Reader

namespace UnusedExpr.Json

/-- What a text holds, if it is one JSON value and nothing else. -/
def parse? (text : String) : Option Document :=
  let s := text.toList
  match read : Reader.value (s.length + 1) s with
  | some (value, rest) =>
    if (Reader.skipBlanks rest).isEmpty then some ⟨value, (Reader.sound _).value read⟩ else none
  | none => none

end UnusedExpr.Json
