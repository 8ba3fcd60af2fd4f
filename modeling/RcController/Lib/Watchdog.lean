import RcController.Lib.Runs
import Mathlib.Tactic.Ring
import Mathlib.Order.Basic

/-!
# A watchdog on a clock that wraps

A watchdog remembers the reading of a clock at its last feed and compares it with the
reading at every poll: when the difference exceeds the timeout it disarms itself, until
it is fed again. The clock counts modulo `w`, so that a poll sees the silence only modulo
`w`, and a silence of one turn looks like none.

A watchdog that is polled often enough is not fooled (`silence_le`). A silence can pass
the timeout unnoticed only between two polls, and as long as that takes less than a turn
the next poll sees it and disarms. Once disarmed, it is not asked again.
-/

namespace Watchdog

/-- The clock, its reading at the last feed, and whether a poll still compares
the two. -/
structure Dog where
  now : ℕ
  last : ℕ
  armed : Bool

inductive Event where
  | elapse (n : ℕ)
  | feed
  | poll
  | stop
  -- the device restarts: the clock is set, and nothing has been fed yet
  | restart (now : ℕ)
  deriving DecidableEq

/-- The difference of the two readings. -/
def Dog.difference (w : ℕ) (d : Dog) : ℕ := (w - d.last + d.now) % w

def step (w timeout : ℕ) (d : Dog) : Event → Dog
  | .elapse n => { d with now := (d.now + n) % w }
  | .feed => { d with last := d.now, armed := true }
  | .poll => { d with armed := d.armed && !decide (timeout < d.difference w) }
  | .stop => { d with armed := false }
  | .restart now => { now := now, last := 0, armed := false }

/-! ### Silence -/

/-- The time since the last feed. -/
def silence (l : List Event) : ℕ :=
  l.foldl (fun n e => match e with
    | .elapse k => n + k
    | .feed => 0
    | .poll | .stop | .restart _ => n) 0

/-- The time since the last poll or feed. -/
def unpolled (l : List Event) : ℕ :=
  l.foldl (fun n e => match e with
    | .elapse k => n + k
    | .feed | .poll => 0
    | .stop | .restart _ => n) 0

section Lists

variable (l : List Event) (n : ℕ)

@[simp] theorem silence_elapse : silence (l ++ [.elapse n]) = silence l + n := by simp [silence]
@[simp] theorem silence_feed : silence (l ++ [.feed]) = 0 := by simp [silence]
@[simp] theorem silence_poll : silence (l ++ [.poll]) = silence l := by simp [silence]
@[simp] theorem unpolled_elapse : unpolled (l ++ [.elapse n]) = unpolled l + n := by simp [unpolled]
@[simp] theorem unpolled_feed : unpolled (l ++ [.feed]) = 0 := by simp [unpolled]
@[simp] theorem unpolled_poll : unpolled (l ++ [.poll]) = 0 := by simp [unpolled]

end Lists

/-- No poll of the history comes later than the gap after the last poll or feed
before it. -/
def PolledWithin (gap : ℕ) (l : List Event) : Prop :=
  ∀ p, p ++ [.poll] <+: l → unpolled p < gap

/-- A history that is polled in time was so before. -/
theorem PolledWithin.of_append {gap : ℕ} {l l' : List Event} (h : PolledWithin gap (l ++ l')) :
    PolledWithin gap l := fun p hp => h p (hp.trans (List.prefix_append l l'))

/-- All the time that passes. -/
def elapsed (l : List Event) : ℕ :=
  (l.map fun e => match e with
    | .elapse k => k
    | .feed | .poll | .stop | .restart _ => 0).sum

theorem elapsed_append (l l' : List Event) : elapsed (l ++ l') = elapsed l + elapsed l' := by
  simp [elapsed]

/-- Not more time can pass without a poll than passes. -/
theorem unpolled_le_elapsed (l : List Event) : unpolled l ≤ elapsed l := by
  induction l using List.reverseRecOn with
  | nil => exact Nat.le_refl 0
  | append_singleton l e ih => cases e <;> simp [unpolled, elapsed] at ih ⊢ <;> omega

/-- Within a time shorter than the gap, every poll is in time. -/
theorem polledWithin_of_elapsed {gap : ℕ} {l : List Event} (h : elapsed l < gap) :
    PolledWithin gap l := by
  rintro p ⟨rest, rfl⟩
  rw [elapsed_append, elapsed_append] at h
  have hle := unpolled_le_elapsed p
  omega

/-! ### The invariant -/

/-- As long as the watchdog is armed it knows the silence modulo one turn, and
the silence is within the timeout but for the time since the last poll. -/
structure Alert (w timeout : ℕ) (l : List Event) (d : Dog) : Prop where
  last_lt : d.last < w
  now_lt : d.now < w
  reading : d.armed = true → (d.last + silence l) % w = d.now
  silence : d.armed = true → silence l ≤ timeout + unpolled l

section Alert

variable {w timeout : ℕ} {l : List Event} {d : Dog}

/-- The difference is the silence, once that is less than a turn. -/
theorem Alert.difference (h : Alert w timeout l d) (harmed : d.armed = true)
    (hturn : Watchdog.silence l < w) : d.difference w = Watchdog.silence l := by
  have hreading := h.reading harmed
  have hlast := h.last_lt
  unfold Dog.difference
  rw [← hreading, Nat.add_mod_mod]
  have hsum : w - d.last + (d.last + Watchdog.silence l) = Watchdog.silence l + w := by omega
  rw [hsum, Nat.add_mod_right, Nat.mod_eq_of_lt hturn]

/-- Every event keeps the watchdog alert, when the polls come often enough. -/
theorem Alert.step (hw : 0 < w) (h : Alert w timeout l d) (e : Event)
    (hrestart : ∀ now, e = .restart now → now < w)
    (hpoll : e = .poll → unpolled l + timeout < w) :
    Alert w timeout (l ++ [e]) (Watchdog.step w timeout d e) := by
  cases e with
  -- time passes: the silence and the clock grow by the same amount
  | elapse n =>
    refine ⟨h.last_lt, Nat.mod_lt _ hw, fun harmed => ?_, fun harmed => ?_⟩
    · change (d.last + Watchdog.silence (l ++ [.elapse n])) % w = (d.now + n) % w
      rw [silence_elapse, ← Nat.add_assoc, Nat.add_mod, h.reading harmed]
      simp
    · have hsilence := h.silence harmed
      rw [silence_elapse, unpolled_elapse]
      omega
  -- the last contact is now
  | feed =>
    refine ⟨h.now_lt, h.now_lt, fun _ => ?_, fun _ => ?_⟩
    · change (d.now + Watchdog.silence (l ++ [.feed])) % w = d.now
      rw [silence_feed, Nat.add_zero, Nat.mod_eq_of_lt h.now_lt]
    · rw [silence_feed]
      exact Nat.zero_le _
  -- the watchdog stays armed only if the test found the silence short enough
  | poll =>
    refine ⟨h.last_lt, h.now_lt, fun harmed => ?_, fun harmed => ?_⟩
    · have hbefore : d.armed = true := (Bool.and_eq_true_iff.mp harmed).1
      rw [silence_poll]
      exact h.reading hbefore
    · obtain ⟨hbefore, htest⟩ := Bool.and_eq_true_iff.mp harmed
      have hsilence := h.silence hbefore
      have hgap := hpoll rfl
      rw [h.difference hbefore (by omega)] at htest
      have hle : ¬ timeout < Watchdog.silence l := by simpa using htest
      rw [silence_poll]
      omega
  | stop =>
    exact ⟨h.last_lt, h.now_lt, fun harmed => (by cases harmed), fun harmed => by cases harmed⟩
  | restart now =>
    exact ⟨hw, hrestart now rfl, fun harmed => (by cases harmed), fun harmed => by cases harmed⟩

end Alert

/-- **A watchdog that is polled often enough.** After any events from a disarmed
watchdog, as long as it is armed the silence is within the timeout, but for the
time since the last poll. No silence of a turn can go unnoticed, for it would
have been noticed at a poll before. -/
theorem silence_le {w timeout : ℕ} {d : Dog} (hlast : d.last < w) (hnow : d.now < w)
    (hdisarmed : d.armed = false) (l : List Event)
    (hrestart : ∀ now, .restart now ∈ l → now < w) (hpoll : PolledWithin (w - timeout) l)
    (harmed : (Runs.run (step w timeout) d l).armed = true) :
    silence l ≤ timeout + unpolled l := by
  have hw : 0 < w := Nat.lt_of_le_of_lt (Nat.zero_le _) hlast
  suffices halert : Alert w timeout l (Runs.run (step w timeout) d l) from halert.silence harmed
  clear harmed
  induction l using List.reverseRecOn with
  | nil => exact ⟨hlast, hnow, by simp [hdisarmed], by simp [hdisarmed]⟩
  | append_singleton l e ih =>
    rw [Runs.run_append]
    have hbefore := ih (fun now hmem => hrestart now (List.mem_append_left _ hmem)) hpoll.of_append
    refine hbefore.step hw e (fun now he => hrestart now (by simp [he])) fun he => ?_
    have hgap := hpoll l (by rw [he])
    omega

end Watchdog
