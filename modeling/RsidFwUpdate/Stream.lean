import Mathlib.Data.List.Infix
import Mathlib.Data.Nat.Digits
/-!
# Reading text the way the C++ library does

`main.cc` reads its input through four library calls: `std::cin >> key` for a
`char`, `std::getline` on `std::cin` and on a `std::stringstream`, and
`std::stoi`. A stream is the list of characters it has left; a read that fails
leaves it exhausted, which is how a failed read's stream behaves from then on
(every later read fails too).

C strings are `char` arrays read up to their first NUL (`cString`).

- `stoi_digits`: `std::stoi` reads a run of digits after blanks, up to the
  first character that is no digit.
- `toDigitsCore_spec`: the decimal digits `Nat.toDigits` writes for `n` read
  back as `n`.
-/

namespace RsidFwUpdate

/-- The NUL character that ends a C string. -/
def nul : Char := '\x00'

/-- A `char` array read as a C string: the characters before its first NUL. -/
def cString (s : List Char) : List Char := s.takeWhile (· != nul)

/-- `std::isspace` in the "C" locale. -/
def isSpace (c : Char) : Bool :=
  c = ' ' || c = '\t' || c = '\n' || c = '\x0B' || c = '\x0C' || c = '\r'

/-- `std::cin >> key` for a `char`: skip blanks, extract one character. `none` when the stream
ends first; the extraction fails and `key` keeps its value. -/
def readChar (stream : List Char) : Option (Char × List Char) :=
  match stream.dropWhile isSpace with
  | [] => none
  | c :: rest => some (c, rest)

/-- `std::getline(stream, str, delim)`: the characters up to the next `delim`, which is extracted
and dropped. `none` when nothing is left to extract, so the call fails. -/
def getline (delim : Char) : List Char → Option (List Char × List Char)
  | [] => none
  | c :: cs => some ((c :: cs).takeWhile (· != delim), ((c :: cs).dropWhile (· != delim)).drop 1)

/-- What successive `std::getline` calls extract before one fails (`getlines_getline`). -/
def getlines (delim : Char) : List Char → List (List Char)
  | [] => []
  | c :: cs =>
    if c = delim then [] :: getlines delim cs
    else match getlines delim cs with
      | [] => [[c]]
      | l :: ls => (c :: l) :: ls

/-- The value of a run of decimal digits. -/
def digitsValue (ds : List Char) : Nat := ds.foldl (fun n d => 10 * n + (d.toNat - '0'.toNat)) 0

/-- `std::stoi(str)`: `strtol` in base 10 after leading blanks and an optional sign; `none` where
it throws, `std::invalid_argument` without digits and `std::out_of_range` outside `int`. -/
def stoi (str : List Char) : Option Int :=
  let (negative, rest) : Bool × List Char := match str.dropWhile isSpace with
    | '-' :: r => (true, r)
    | '+' :: r => (false, r)
    | r => (false, r)
  let digits := rest.takeWhile Char.isDigit
  if digits.isEmpty then none
  else
    let value : Int := if negative then -(digitsValue digits : Int) else digitsValue digits
    if -2147483648 ≤ value ∧ value ≤ 2147483647 then some value else none

/-! ## C strings -/

theorem cString_of_not_mem {s : List Char} (h : nul ∉ s) : cString s = s :=
  List.takeWhile_eq_self_iff.2 fun x hx => by simpa using ne_of_mem_of_not_mem hx h

theorem nul_not_mem_cString (s : List Char) : nul ∉ cString s := fun h => by
  simpa using List.mem_takeWhile_imp h

theorem cString_append_nul {s : List Char} (h : nul ∉ s) (t : List Char) :
    cString (s ++ nul :: t) = s := by
  rw [cString, List.takeWhile_append_of_pos fun x hx => by simpa using ne_of_mem_of_not_mem hx h]
  simp

/-! ## Reading one character -/

theorem readChar_cons_space {c : Char} (hc : isSpace c = true) (s : List Char) :
    readChar (c :: s) = readChar s := by
  simp [readChar, List.dropWhile_cons_of_pos hc]

theorem readChar_cons {c : Char} (hc : isSpace c = false) (s : List Char) :
    readChar (c :: s) = some (c, s) := by
  simp [readChar, @List.dropWhile_cons_of_neg _ isSpace c s (by simp [hc])]

/-- A character read comes from the stream, and what is left is a suffix of it. -/
theorem readChar_some {s rest : List Char} {c : Char} (h : readChar s = some (c, rest)) :
    c ∈ s ∧ rest <:+ s := by
  induction s with
  | nil => simp [readChar] at h
  | cons x s ih =>
    cases hx : isSpace x
    · rw [readChar_cons hx] at h
      obtain ⟨rfl, rfl⟩ := Prod.mk.inj (Option.some.inj h)
      exact ⟨List.mem_cons_self _ _, List.suffix_cons _ _⟩
    · rw [readChar_cons_space hx] at h
      obtain ⟨hc, hr⟩ := ih h
      exact ⟨List.mem_cons_of_mem _ hc, hr.trans (List.suffix_cons _ _)⟩

/-! ## Lines -/

theorem getline_eq_none {delim : Char} {s : List Char} : getline delim s = none ↔ s = [] := by
  cases s <;> simp [getline]

/-- `getlines` is the loop `while (std::getline(...))`: one call, then the rest. -/
theorem getlines_getline {delim : Char} {s l rest : List Char}
    (h : getline delim s = some (l, rest)) : getlines delim s = l :: getlines delim rest := by
  induction s generalizing l rest with
  | nil => cases h
  | cons c cs ih =>
    simp only [getline, Option.some.injEq, Prod.mk.injEq] at h
    obtain ⟨rfl, rfl⟩ := h
    by_cases hc : c = delim
    · subst hc; simp [getlines]
    · have hc' : (c != delim) = true := by simpa using hc
      rw [getlines, if_neg hc, @List.takeWhile_cons_of_pos _ (· != delim) c cs hc',
        @List.dropWhile_cons_of_pos _ (· != delim) c cs hc']
      cases cs with
      | nil => rfl
      | cons d ds => rw [ih rfl]

/-- A text with no delimiter is one section. -/
theorem getlines_of_not_mem {delim : Char} {l : List Char} (hl : l ≠ []) (h : delim ∉ l) :
    getlines delim l = [l] := by
  obtain ⟨c, cs, rfl⟩ := List.exists_cons_of_ne_nil hl
  have hp : ∀ x ∈ c :: cs, (x != delim) = true := fun x hx => by
    simpa using ne_of_mem_of_not_mem hx h
  have hg : getline delim (c :: cs) = some (c :: cs, []) := by
    simp only [getline, Option.some.injEq, Prod.mk.injEq]
    exact ⟨List.takeWhile_eq_self_iff.2 hp, by rw [List.dropWhile_eq_nil_iff.2 hp]; rfl⟩
  rw [getlines_getline hg]
  rfl

/-- A line followed by its delimiter is what `std::getline` extracts. -/
theorem getline_append_delim {delim : Char} {l : List Char} (h : delim ∉ l) (rest : List Char) :
    getline delim (l ++ delim :: rest) = some (l, rest) := by
  have hp : ∀ x ∈ l, (x != delim) = true := fun x hx => by simpa using ne_of_mem_of_not_mem hx h
  cases l with
  | nil => simp [getline]
  | cons c cs =>
    simp only [getline, List.cons_append, Option.some.injEq, Prod.mk.injEq]
    rw [← List.cons_append, List.takeWhile_append_of_pos hp, List.dropWhile_append,
      List.dropWhile_eq_nil_iff.2 hp]
    simp

/-- A section followed by its delimiter. -/
theorem getlines_append_delim {delim : Char} {l : List Char} (h : delim ∉ l) (rest : List Char) :
    getlines delim (l ++ delim :: rest) = l :: getlines delim rest :=
  getlines_getline (getline_append_delim h rest)

/-! ## Decimal numbers -/

/-- The ten decimal digits. -/
theorem digitChar_digit : ∀ d < 10, (Nat.digitChar d).isDigit = true ∧
    (Nat.digitChar d).toNat = '0'.toNat + d := by
  decide

theorem isSpace_of_isDigit {c : Char} (h : c.isDigit = true) : isSpace c = false := by
  cases hs : isSpace c
  · rfl
  · simp only [isSpace, Bool.or_eq_true, decide_eq_true_eq] at hs
    rcases hs with ((((rfl | rfl) | rfl) | rfl) | rfl) | rfl <;> exact absurd h (by decide)

@[simp] theorem digitsValue_nil : digitsValue [] = 0 := rfl

theorem digitsValue_append_digit (ds : List Char) {d : Nat} (h : d < 10) :
    digitsValue (ds ++ [Nat.digitChar d]) = 10 * digitsValue ds + d := by
  simp [digitsValue, List.foldl_append, (digitChar_digit d h).2]

theorem toDigitsCore_append (fuel n : Nat) (ds : List Char) :
    Nat.toDigitsCore 10 fuel n ds = Nat.toDigitsCore 10 fuel n [] ++ ds := by
  induction fuel generalizing n ds with
  | zero => rfl
  | succ fuel ih =>
    simp only [Nat.toDigitsCore]
    split
    · rfl
    · rw [ih _ (_ :: ds), ih _ [_], List.append_assoc, List.singleton_append]

/-- With fuel above `n`, the digits `Nat.toDigits` writes for `n` are decimal digits, at least
one, and read back as `n`. -/
theorem toDigitsCore_spec : ∀ (fuel n : Nat), n < fuel →
    Nat.toDigitsCore 10 fuel n [] ≠ [] ∧ (∀ c ∈ Nat.toDigitsCore 10 fuel n [], c.isDigit = true) ∧
      digitsValue (Nat.toDigitsCore 10 fuel n []) = n
  | 0, _, h => absurd h (Nat.not_lt_zero _)
  | fuel + 1, n, h => by
    have hd : n % 10 < 10 := Nat.mod_lt _ (by decide)
    simp only [Nat.toDigitsCore]
    split
    · next h0 =>
      refine ⟨List.cons_ne_nil _ _, by simpa using (digitChar_digit _ hd).1, ?_⟩
      have h1 := digitsValue_append_digit [] hd
      rw [List.nil_append] at h1
      rw [h1, digitsValue_nil]
      omega
    · next h0 =>
      obtain ⟨hne, hdig, hval⟩ := toDigitsCore_spec fuel (n / 10) (by omega)
      rw [toDigitsCore_append]
      refine ⟨by simp, ?_, by rw [digitsValue_append_digit _ hd, hval]; omega⟩
      intro c hc
      rcases List.mem_append.1 hc with hc | hc
      · exact hdig c hc
      · exact List.mem_singleton.1 hc ▸ (digitChar_digit _ hd).1

/-- `std::stoi` reads a run of digits after blanks, up to the first character that is no digit. -/
theorem stoi_digits {lead ds trail : List Char} (hlead : ∀ c ∈ lead, isSpace c = true)
    (hne : ds ≠ []) (hds : ∀ c ∈ ds, c.isDigit = true) (htrail : ∀ c ∈ trail.head?, c.isDigit = false)
    (hrange : digitsValue ds ≤ 2147483647) :
    stoi (lead ++ ds ++ trail) = some (digitsValue ds : Int) := by
  obtain ⟨c, cs, rfl⟩ := List.exists_cons_of_ne_nil hne
  have hc := hds c (List.mem_cons_self _ _)
  have hdrop : (lead ++ (c :: cs) ++ trail).dropWhile isSpace = c :: (cs ++ trail) := by
    rw [List.append_assoc, List.dropWhile_append,
      if_pos (by simpa [List.dropWhile_eq_nil_iff] using hlead)]
    exact List.dropWhile_cons_of_neg (by simp [isSpace_of_isDigit hc])
  have htake : (c :: (cs ++ trail)).takeWhile Char.isDigit = c :: cs := by
    rw [← List.cons_append, List.takeWhile_append_of_pos hds]
    cases trail with
    | nil => simp
    | cons d ds' => simp [List.takeWhile_cons_of_neg (by simpa using htrail d rfl)]
  unfold stoi
  rw [hdrop]
  split
  next negative rest h =>
  -- a digit comes first, so there is no sign
  split at h
  · next r heq => cases (List.cons.inj heq).1; exact absurd hc (by decide)
  · next r heq => cases (List.cons.inj heq).1; exact absurd hc (by decide)
  · obtain ⟨rfl, rfl⟩ := Prod.mk.inj h
    simp only [htake, List.isEmpty_cons, Bool.false_eq_true, if_false]
    exact if_pos ⟨by omega, by omega⟩

end RsidFwUpdate
