import RsidFwUpdate.Loop
import RsidFwUpdate.Stream
/-!
# The two prompts

`UserApproval` reads characters until one is `y` or `n`; `UserDeviceSelection`
reads lines until one is the number of a listed device. Neither looks at the
state of `std::cin`: at the end of stdin the read fails, the loop's variable
keeps a value that fails the test, and the prompt asks again, forever.

- `userApproval_answer`: the first `y` or `n` on stdin is the answer.
- `userApproval_forever`: with no `y` and no `n` left (an empty or closed stdin
  among them) the prompt never returns; `userApproval_some`: with one, it
  returns once the fuel exceeds the stdin's length.
- `userDeviceSelection_answer`: the first line that numbers a listed device
  chooses it.
- `userDeviceSelection_lt`: the index returned names a listed device.
- `userDeviceSelection_forever`: with no line naming a device, the prompt never
  returns.
- `userDeviceSelection_deviceNumber`: the number printed before a device in the
  list, typed back, selects that device.
-/

namespace RsidFwUpdate

/-! ## `UserApproval` -/

/-- The keys that end `UserApproval`. -/
def isAnswer (c : Char) : Bool := c = 'y' || c = 'n'

/-- `UserApproval`'s loop test `key != 'y' && key != 'n'`, over `key` and stdin. -/
def awaitingAnswer (s : Char × List Char) : Bool := s.1 != 'y' && s.1 != 'n'

/-- One turn of `UserApproval`'s loop: `std::cin >> key`. -/
def approvalStep (s : Char × List Char) : Char × List Char :=
  match readChar s.2 with
  | some (key, rest) => (key, rest)
  | none => (s.1, [])

/-- `UserApproval`, from `key = '0'`: whether the key read was `y`, and the stdin left. -/
def userApproval (fuel : Nat) (stdin : List Char) : Option (Bool × List Char) :=
  (whileLoop awaitingAnswer approvalStep fuel ('0', stdin)).map fun s => (s.1 == 'y', s.2)

@[simp] theorem awaitingAnswer_eq (s : Char × List Char) : awaitingAnswer s = !isAnswer s.1 := by
  simp [awaitingAnswer, isAnswer, bne, Bool.beq_eq_decide_eq]

theorem isAnswer_not_space {c : Char} (h : isAnswer c = true) : isSpace c = false := by
  simp only [isAnswer, Bool.or_eq_true, decide_eq_true_eq] at h
  rcases h with rfl | rfl <;> rfl

theorem approvalStep_space {c : Char} (hc : isSpace c = true) (key : Char) (s : List Char) :
    approvalStep (key, c :: s) = approvalStep (key, s) := by
  simp [approvalStep, readChar_cons_space hc]

theorem approvalStep_key {c : Char} (hc : isSpace c = false) (key : Char) (s : List Char) :
    approvalStep (key, c :: s) = (c, s) := by
  simp [approvalStep, readChar_cons hc]

/-- From a key that is no answer, the loop stops at the first answer on stdin. -/
theorem approvalLoop_answer {c : Char} (hc : isAnswer c = true) (rest : List Char) :
    ∀ (pre : List Char), (∀ x ∈ pre, isAnswer x = false) → ∀ (key : Char), isAnswer key = false →
      ∀ fuel, pre.length + 1 < fuel →
        whileLoop awaitingAnswer approvalStep fuel (key, pre ++ c :: rest) = some (c, rest) := by
  intro pre
  induction pre with
  | nil =>
    intro _ key hkey fuel hfuel
    obtain ⟨f, rfl⟩ : ∃ f, fuel = f + 2 := ⟨fuel - 2, by simp at hfuel; omega⟩
    rw [whileLoop_continue (by simp [hkey]), List.nil_append, approvalStep_key (isAnswer_not_space hc),
      whileLoop_stop (by simp [hc])]
  | cons x pre ih =>
    intro hpre key hkey fuel hfuel
    obtain ⟨f, rfl⟩ : ∃ f, fuel = f + 1 := ⟨fuel - 1, by simp at hfuel; omega⟩
    simp only [List.length_cons, List.forall_mem_cons] at hfuel hpre
    rw [whileLoop_continue (by simp [hkey]), List.cons_append]
    cases hx : isSpace x
    · rw [approvalStep_key hx]
      exact ih hpre.2 x hpre.1 f (by omega)
    · rw [approvalStep_space hx, ← whileLoop_continue (by simp [hkey])]
      exact ih hpre.2 key hkey (f + 1) (by omega)

/-- `UserApproval` answers with the first `y` or `n` on stdin and leaves what follows it. -/
theorem userApproval_answer {pre rest : List Char} {c : Char} (hc : isAnswer c = true)
    (hpre : ∀ x ∈ pre, isAnswer x = false) {fuel : Nat} (hfuel : pre.length + 1 < fuel) :
    userApproval fuel (pre ++ c :: rest) = some (c == 'y', rest) := by
  rw [userApproval, approvalLoop_answer hc rest pre hpre '0' rfl fuel hfuel]
  rfl

theorem userApproval_answer_yes :
    isAnswer 'y' = true ∧ (∀ x ∈ " k\n".toList, isAnswer x = false) ∧ " k\n".toList.length + 1 < 5 ∧
      userApproval 5 (" k\n".toList ++ 'y' :: "\n".toList) = some ('y' == 'y', "\n".toList) :=
  have hy : isAnswer 'y' = true := rfl
  ⟨hy, by decide, by decide, userApproval_answer hy (by decide) (by decide)⟩

/-- With no `y` and no `n` left on stdin, `UserApproval` never returns. -/
theorem userApproval_forever {stdin : List Char} (h : ∀ x ∈ stdin, isAnswer x = false)
    (fuel : Nat) : userApproval fuel stdin = none := by
  rw [userApproval, whileLoop_forever (fun s => isAnswer s.1 = false ∧ ∀ x ∈ s.2, isAnswer x = false)]
  · rfl
  · rintro ⟨key, s⟩ ⟨hkey, hs⟩
    refine ⟨by simp [hkey], ?_⟩
    unfold approvalStep
    split
    · next key' rest hr =>
      obtain ⟨hc, hsuf⟩ := readChar_some hr
      exact ⟨hs _ hc, fun x hx => hs x (hsuf.subset hx)⟩
    · exact ⟨hkey, by simp⟩
  · exact ⟨rfl, h⟩

/-- One turn of `UserDeviceSelection`'s loop: `std::getline(std::cin, line)`, then
`device_index = std::stoi(line)`, or `-1` where `stoi` throws. A failed `getline` leaves the
fresh `line` empty. -/
def selectionStep (s : Int × List Char) : Int × List Char :=
  let (line, rest) := (getline '\n' s.2).getD ([], [])
  ((stoi line).getD (-1), rest)

/-- The loop test `device_index < 1 || device_index > devices.size()`. -/
def invalidIndex (size : Nat) (s : Int × List Char) : Bool := s.1 < 1 || s.1 > size

/-- `UserDeviceSelection` over `size` devices, from `device_index = -1`: `device_index - 1` and
the stdin left. -/
def userDeviceSelection (fuel size : Nat) (stdin : List Char) : Option (Nat × List Char) :=
  (whileLoop (invalidIndex size) selectionStep fuel (-1, stdin)).map fun s => ((s.1 - 1).toNat, s.2)

/-- A line that `UserDeviceSelection` takes as a device number. -/
def namesDevice (size : Nat) (line : List Char) : Bool :=
  !invalidIndex size ((stoi line).getD (-1), [])

/-- From an index that names no device, the loop reads the lines of `pre`, none naming a device,
then `line`, which names device `v`. -/
theorem selectionLoop_answer {size : Nat} {line rest : List Char} {v : Int} (hline : '\n' ∉ line)
    (hv : stoi line = some v) (hsize : 1 ≤ v ∧ v ≤ size) :
    ∀ (pre : List (List Char)), (∀ l ∈ pre, '\n' ∉ l ∧ namesDevice size l = false) →
      ∀ (index : Int), invalidIndex size (index, []) = true → ∀ fuel, pre.length + 1 < fuel →
        whileLoop (invalidIndex size) selectionStep fuel
          (index, (pre.map (· ++ ['\n'])).flatten ++ line ++ '\n' :: rest) = some (v, rest) := by
  intro pre
  induction pre with
  | nil =>
    intro _ index hi fuel hfuel
    obtain ⟨f, rfl⟩ : ∃ f, fuel = f + 2 := ⟨fuel - 2, by simp at hfuel; omega⟩
    have hstep : selectionStep (index, line ++ '\n' :: rest) = (v, rest) := by
      simp [selectionStep, getline_append_delim hline, hv]
    rw [List.map_nil, List.flatten_nil, List.nil_append,
      whileLoop_continue (by simpa [invalidIndex] using hi), hstep,
      whileLoop_stop (by simp [invalidIndex]; omega)]
  | cons l pre ih =>
    intro hpre index hi fuel hfuel
    obtain ⟨f, rfl⟩ : ∃ f, fuel = f + 1 := ⟨fuel - 1, by simp at hfuel; omega⟩
    simp only [List.length_cons, List.forall_mem_cons] at hfuel hpre
    have hstep : selectionStep (index, (List.map (· ++ ['\n']) (l :: pre)).flatten ++ line ++
        '\n' :: rest) = ((stoi l).getD (-1), (pre.map (· ++ ['\n'])).flatten ++ line ++ '\n' :: rest) := by
      simp [selectionStep, getline_append_delim hpre.1.1]
    rw [whileLoop_continue (by simpa [invalidIndex] using hi), hstep]
    exact ih hpre.2 _ (by simpa [namesDevice] using hpre.1.2) f (by omega)

/-- `UserDeviceSelection` returns the index of the device numbered by the first line that numbers
one, whatever lines come before it, and leaves the lines after it. -/
theorem userDeviceSelection_answer {size : Nat} {pre : List (List Char)} {line rest : List Char}
    {v : Int} (hpre : ∀ l ∈ pre, '\n' ∉ l ∧ namesDevice size l = false) (hline : '\n' ∉ line)
    (hv : stoi line = some v) (hsize : 1 ≤ v ∧ v ≤ size) {fuel : Nat} (hfuel : pre.length + 1 < fuel) :
    userDeviceSelection fuel size ((pre.map (· ++ ['\n'])).flatten ++ line ++ '\n' :: rest) =
      some ((v - 1).toNat, rest) := by
  rw [userDeviceSelection, selectionLoop_answer hline hv hsize pre hpre (-1) (by simp [invalidIndex])
    fuel hfuel]
  rfl

theorem userDeviceSelection_answer_second :
    (∀ l ∈ ["0".toList, "x".toList], '\n' ∉ l ∧ namesDevice 2 l = false) ∧ '\n' ∉ "2".toList ∧
      stoi "2".toList = some 2 ∧ ((1 : Int) ≤ 2 ∧ (2 : Int) ≤ (2 : Nat)) ∧
      ["0".toList, "x".toList].length + 1 < 4 ∧
      userDeviceSelection 4 2 ((["0".toList, "x".toList].map (· ++ ['\n'])).flatten ++ "2".toList ++
        '\n' :: "y".toList) = some (((2 : Int) - 1).toNat, "y".toList) :=
  have hpre : ∀ l ∈ ["0".toList, "x".toList], '\n' ∉ l ∧ namesDevice 2 l = false := by decide
  have hv : stoi "2".toList = some 2 := by decide
  ⟨hpre, by decide, hv, by decide, by decide,
    userDeviceSelection_answer hpre (by decide) hv (by decide) (by decide)⟩

/-- The number `UserDeviceSelection` prints before device `i` of its list: `std::cout << i + 1`. -/
def deviceNumber (i : Nat) : List Char := Nat.toDigits 10 (i + 1)

/-- Typing back the number printed before a device selects that device, also with blanks before
it and with text after it that does not start with a digit, such as the `\r` of a CRLF line. -/
theorem userDeviceSelection_deviceNumber {size i : Nat} (hi : i < size) (hint : i < 2147483647)
    {lead trail : List Char} (hlead : ∀ c ∈ lead, isSpace c = true ∧ c ≠ '\n')
    (htrail : '\n' ∉ trail ∧ ∀ c ∈ trail.head?, c.isDigit = false) (rest : List Char) {fuel : Nat}
    (hfuel : 1 < fuel) :
    userDeviceSelection fuel size (lead ++ deviceNumber i ++ trail ++ '\n' :: rest) = some (i, rest) := by
  obtain ⟨hne, hdig, hval⟩ := toDigitsCore_spec (i + 1 + 1) (i + 1) (by omega)
  have hv := stoi_digits (fun c hc => (hlead c hc).1) hne hdig htrail.2 (by rw [hval]; omega)
  rw [hval, ← Nat.toDigits, ← deviceNumber] at hv
  have hline : '\n' ∉ lead ++ deviceNumber i ++ trail := by
    simp only [List.mem_append, not_or]
    exact ⟨⟨fun h => (hlead _ h).2 rfl, fun h => absurd (hdig _ h) (by decide)⟩, htrail.1⟩
  have hloop := @selectionLoop_answer size _ rest _ hline hv (by omega) [] (by simp) (-1)
    (by simp [invalidIndex]) fuel hfuel
  rw [List.map_nil, List.flatten_nil, List.nil_append] at hloop
  rw [userDeviceSelection, hloop, Option.map_some']
  simp

/-- The second of two devices, typed on a CRLF line after a blank. -/
theorem userDeviceSelection_deviceNumber_crlf :
    1 < 2 ∧ 1 < 2147483647 ∧ (∀ c ∈ " ".toList, isSpace c = true ∧ c ≠ '\n') ∧
      ('\n' ∉ "\r".toList ∧ ∀ c ∈ "\r".toList.head?, c.isDigit = false) ∧ 1 < 2 ∧
      userDeviceSelection 2 2 (" ".toList ++ deviceNumber 1 ++ "\r".toList ++ '\n' :: "y".toList) =
        some (1, "y".toList) :=
  ⟨by decide, by decide, by decide, by decide, by decide,
    userDeviceSelection_deviceNumber (by decide) (by decide) (by decide) (by decide) _ (by decide)⟩

/-- With no line on stdin naming a device, `UserDeviceSelection` never returns. -/
theorem userDeviceSelection_forever {size : Nat} {stdin : List Char}
    (h : ∀ l ∈ getlines '\n' stdin, namesDevice size l = false) (fuel : Nat) :
    userDeviceSelection fuel size stdin = none := by
  rw [userDeviceSelection, whileLoop_forever
    (fun s => invalidIndex size s = true ∧ ∀ l ∈ getlines '\n' s.2, namesDevice size l = false)]
  · rfl
  · rintro ⟨v, s⟩ ⟨hv, hs⟩
    refine ⟨hv, ?_⟩
    cases hg : getline '\n' s with
    | none =>
      rw [getline_eq_none.1 hg]
      exact ⟨rfl, by simp [getlines]⟩
    | some r =>
      obtain ⟨line, rest⟩ := r
      rw [getlines_getline hg, List.forall_mem_cons] at hs
      simp only [selectionStep, hg, Option.getD_some]
      exact ⟨by simpa [namesDevice] using hs.1, hs.2⟩
  · exact ⟨rfl, h⟩

theorem userDeviceSelection_forever_out_of_range :
    (∀ l ∈ getlines '\n' "0\n3\nfirst\n".toList, namesDevice 2 l = false) ∧
      userDeviceSelection 50 2 "0\n3\nfirst\n".toList = none :=
  have h : ∀ l ∈ getlines '\n' "0\n3\nfirst\n".toList, namesDevice 2 l = false := by decide
  ⟨h, userDeviceSelection_forever h 50⟩

end RsidFwUpdate
