import RsidFwUpdate.Loop
/-!
# Waiting for the device after a reboot

`WaitForDevice` sleeps `min_wait_seconds`, then, while the device has not
answered and `waitCounter < max_wait_seconds`, sleeps one second and pings it.
`alive t` is what `IsDeviceAlive` returns when called `t` seconds into the wait;
the time the ping itself takes is not counted.

- `waitForDevice_pings`: with `0 ≤ min_wait_seconds` the pings fall on the
  seconds `min_wait_seconds + 1`, ..., `max_wait_seconds`, up to the first at
  which the device answers, and the result says whether it answered in that
  window.
- `waitForDevice_negative_min`: with `min_wait_seconds < 0` there is no first
  sleep and the counter starts below zero, so the pings fall on the seconds
  `1`, ..., `max_wait_seconds - min_wait_seconds`: the wait outlasts
  `max_wait_seconds`.
-/

namespace RsidFwUpdate

/-- `WaitForDevice`'s locals, the seconds slept so far and the seconds at which it pinged. -/
structure WaitState where
  isDeviceAlive : Bool
  waitCounter : Int
  elapsed : Nat
  pings : List Nat
  deriving DecidableEq, Repr

/-- The loop test `!isDeviceAlive && waitCounter < max_wait_seconds`. -/
def waitCond (max_wait_seconds : Int) (s : WaitState) : Bool :=
  !s.isDeviceAlive && decide (s.waitCounter < max_wait_seconds)

/-- One turn: sleep a second, `waitCounter++`, ping. -/
def waitStep (alive : Nat → Bool) (s : WaitState) : WaitState :=
  { isDeviceAlive := alive (s.elapsed + 1), waitCounter := s.waitCounter + 1,
    elapsed := s.elapsed + 1, pings := s.pings ++ [s.elapsed + 1] }

/-- `WaitForDevice`: whether the device answered, and when it was pinged. A negative
`sleep_for` returns at once. -/
def waitForDevice (fuel : Nat) (min_wait_seconds max_wait_seconds : Int) (alive : Nat → Bool) :
    Option (Bool × List Nat) :=
  (whileLoop (waitCond max_wait_seconds) (waitStep alive) fuel
      ⟨false, min_wait_seconds, min_wait_seconds.toNat, []⟩).map
    fun s => (s.isDeviceAlive, s.pings)

/-- The seconds `min_wait_seconds + 1`, ..., `max_wait_seconds`. -/
def waitWindow (min_wait_seconds max_wait_seconds : Int) : List Nat :=
  List.range' (min_wait_seconds.toNat + 1) (max_wait_seconds - min_wait_seconds).toNat

/-- The seconds up to and including the first at which the device answers. -/
def untilAlive (alive : Nat → Bool) (ts : List Nat) : List Nat :=
  ts.takeWhile (fun t => !alive t) ++ (ts.dropWhile (fun t => !alive t)).take 1

theorem untilAlive_sublist (alive : Nat → Bool) (ts : List Nat) :
    List.Sublist (untilAlive alive ts) ts := by
  have h := (List.Sublist.refl (ts.takeWhile fun t => !alive t)).append
    (List.take_sublist 1 (ts.dropWhile fun t => !alive t))
  rwa [List.takeWhile_append_dropWhile] at h

theorem untilAlive_cons_alive {alive : Nat → Bool} {t : Nat} (h : alive t = true) (ts : List Nat) :
    untilAlive alive (t :: ts) = [t] := by
  simp [untilAlive, h]

theorem untilAlive_cons_dead {alive : Nat → Bool} {t : Nat} (h : alive t = false) (ts : List Nat) :
    untilAlive alive (t :: ts) = t :: untilAlive alive ts := by
  simp [untilAlive, h]

/-- From `waitCounter = c` after `e` seconds, the loop pings at `e + 1`, ..., `e + (max - c)` up
to the first answer: counter and clock move together, whatever their difference. -/
theorem waitLoop_pings (alive : Nat → Bool) (max_wait_seconds : Int) :
    ∀ (n : Nat) (c : Int) (e : Nat) (acc : List Nat), (max_wait_seconds - c).toNat = n →
      ∀ fuel, n < fuel → ∃ s,
        whileLoop (waitCond max_wait_seconds) (waitStep alive) fuel ⟨false, c, e, acc⟩ = some s ∧
        s.isDeviceAlive = (List.range' (e + 1) n).any alive ∧
        s.pings = acc ++ untilAlive alive (List.range' (e + 1) n) := by
  intro n
  induction n with
  | zero =>
    intro c e acc hn fuel hfuel
    obtain ⟨f, rfl⟩ : ∃ f, fuel = f + 1 := ⟨fuel - 1, by omega⟩
    exact ⟨_, whileLoop_stop (by simp [waitCond]; omega) f, rfl, by simp [untilAlive]⟩
  | succ n ih =>
    intro c e acc hn fuel hfuel
    obtain ⟨f, rfl⟩ : ∃ f, fuel = f + 1 := ⟨fuel - 1, by omega⟩
    rw [whileLoop_continue (by simp [waitCond]; omega), List.range'_succ]
    cases ha : alive (e + 1)
    · have hnext : waitStep alive ⟨false, c, e, acc⟩ = ⟨false, c + 1, e + 1, acc ++ [e + 1]⟩ := by
        simp [waitStep, ha]
      obtain ⟨s, hs, h1, h2⟩ := ih (c + 1) (e + 1) (acc ++ [e + 1]) (by omega) f (by omega)
      exact ⟨s, hnext ▸ hs, by simp [h1, ha], by simp [h2, untilAlive_cons_dead ha]⟩
    · obtain ⟨g, rfl⟩ : ∃ g, f = g + 1 := ⟨f - 1, by omega⟩
      exact ⟨_, whileLoop_stop (by simp [waitStep, waitCond, ha]) g, by simp [waitStep, ha],
        by simp [waitStep, untilAlive_cons_alive ha]⟩

/-- From a counter `c ≥ 0` equal to the seconds slept, the loop pings through the rest of the
window up to the first answer. -/
theorem waitLoop_spec (alive : Nat → Bool) (max_wait_seconds : Int) :
    ∀ (n : Nat) (c : Int) (acc : List Nat), 0 ≤ c → (max_wait_seconds - c).toNat = n →
      ∀ fuel, n < fuel → ∃ s,
        whileLoop (waitCond max_wait_seconds) (waitStep alive) fuel ⟨false, c, c.toNat, acc⟩ = some s ∧
        s.isDeviceAlive = (List.range' (c.toNat + 1) n).any alive ∧
        s.pings = acc ++ untilAlive alive (List.range' (c.toNat + 1) n) :=
  fun n c acc _ => waitLoop_pings alive max_wait_seconds n c c.toNat acc

theorem mem_waitWindow {min_wait_seconds max_wait_seconds : Int} (hmin : 0 ≤ min_wait_seconds)
    (t : Nat) : t ∈ waitWindow min_wait_seconds max_wait_seconds ↔
      min_wait_seconds < t ∧ t ≤ max_wait_seconds := by
  simp only [waitWindow, List.mem_range'_1]
  omega

/-- With `0 ≤ min_wait_seconds`, `WaitForDevice` pings at `min_wait_seconds + 1`,
`min_wait_seconds + 2`, ..., up to the first second at which the device answers or else through
`max_wait_seconds`, never outside that window, and returns whether the device answered within it.
Any fuel above the window's length is enough. -/
theorem waitForDevice_pings {min_wait_seconds max_wait_seconds : Int} (hmin : 0 ≤ min_wait_seconds)
    (alive : Nat → Bool) {fuel : Nat} (hfuel : (max_wait_seconds - min_wait_seconds).toNat < fuel) :
    ∃ result pings, waitForDevice fuel min_wait_seconds max_wait_seconds alive = some (result, pings) ∧
      pings = untilAlive alive (waitWindow min_wait_seconds max_wait_seconds) ∧
      (∀ t ∈ pings, min_wait_seconds < t ∧ t ≤ max_wait_seconds) ∧
      (result = true ↔ ∃ t : Nat, min_wait_seconds < t ∧ t ≤ max_wait_seconds ∧ alive t = true) := by
  obtain ⟨s, hs, h1, h2⟩ := waitLoop_spec alive max_wait_seconds _ min_wait_seconds [] hmin rfl fuel hfuel
  refine ⟨s.isDeviceAlive, s.pings, by rw [waitForDevice, hs]; rfl, h2, fun t ht => ?_, ?_⟩
  · rw [h2, List.nil_append] at ht
    exact (mem_waitWindow hmin t).1 ((untilAlive_sublist _ _).subset ht)
  · rw [h1, ← waitWindow, List.any_eq_true]
    simp only [mem_waitWindow hmin, and_assoc]

/-- Bounds 6 and 30 and a device that answers from second 10 on: it is pinged at seconds 7 to 10
and found. -/
theorem waitForDevice_pings_scenario :
    (0 : Int) ≤ 6 ∧ ((30 : Int) - 6).toNat < 25 ∧
      ∃ result pings, waitForDevice 25 6 30 (fun t => decide (10 ≤ t)) = some (result, pings) ∧
        pings = untilAlive (fun t => decide (10 ≤ t)) (waitWindow 6 30) ∧
        (∀ t ∈ pings, (6 : Int) < t ∧ (t : Int) ≤ 30) ∧
        (result = true ↔ ∃ t : Nat, (6 : Int) < t ∧ (t : Int) ≤ 30 ∧ decide (10 ≤ t) = true) :=
  ⟨by decide, by decide,
    @waitForDevice_pings 6 30 (by decide) (fun t => decide (10 ≤ t)) 25 (by decide)⟩

/-- With a negative `min_wait_seconds`, `WaitForDevice` does not sleep first and pings at seconds
`1`, `2`, ..., `max_wait_seconds - min_wait_seconds` up to the first answer: the wait lasts up to
`-min_wait_seconds` seconds longer than `max_wait_seconds`. -/
theorem waitForDevice_negative_min {min_wait_seconds max_wait_seconds : Int}
    (hmin : min_wait_seconds < 0) (alive : Nat → Bool) {fuel : Nat}
    (hfuel : (max_wait_seconds - min_wait_seconds).toNat < fuel) :
    ∃ result pings, waitForDevice fuel min_wait_seconds max_wait_seconds alive = some (result, pings) ∧
      pings = untilAlive alive (List.range' 1 (max_wait_seconds - min_wait_seconds).toNat) ∧
      (result = true ↔
        ∃ t : Nat, 0 < t ∧ t ≤ max_wait_seconds - min_wait_seconds ∧ alive t = true) := by
  obtain ⟨s, hs, h1, h2⟩ := waitLoop_pings alive max_wait_seconds _ min_wait_seconds 0 [] rfl fuel hfuel
  have he : min_wait_seconds.toNat = 0 := by omega
  refine ⟨s.isDeviceAlive, s.pings, by rw [waitForDevice, he, hs]; rfl, h2, ?_⟩
  rw [h1, List.any_eq_true]
  simp only [List.mem_range'_1]
  constructor
  · rintro ⟨t, ht, hat⟩; exact ⟨t, by omega, by omega, hat⟩
  · rintro ⟨t, ht, ht', hat⟩; exact ⟨t, by omega, hat⟩

/-- Bounds `-3` and `2`, a device that answers from second 4 on: pinged at seconds 1 to 4. -/
theorem waitForDevice_negative_min_scenario :
    (-3 : Int) < 0 ∧ ((2 : Int) - -3).toNat < 6 ∧
      ∃ result pings, waitForDevice 6 (-3) 2 (fun t => decide (4 ≤ t)) = some (result, pings) ∧
        pings = untilAlive (fun t => decide (4 ≤ t)) (List.range' 1 ((2 : Int) - -3).toNat) ∧
        (result = true ↔ ∃ t : Nat, 0 < t ∧ (t : Int) ≤ 2 - -3 ∧ decide (4 ≤ t) = true) :=
  ⟨by decide, by decide, @waitForDevice_negative_min (-3) 2 (by decide) _ 6 (by decide)⟩

end RsidFwUpdate
