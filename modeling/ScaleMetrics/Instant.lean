import ScaleMetrics.Calendar

/-!
# Instant

Points in time, to the nanosecond, as seconds from the start of 1970 and nanoseconds into the
second.  A leap second is the second before it held for two seconds: it is the last of its minute
and its nanoseconds go on past a thousand million.  Instants lie in the years -262143 to 262142.

`a.since b` is the time from `b` to `a` in nanoseconds.  A leap second between two times of day
adds a second to it; without leap seconds it is the difference of the two (`since_of_ordinary`).
The latest of some instants is one of them that no other is after (`latest?_eq_some_iff`).
-/

namespace ScaleMetrics

/-- The nanoseconds of a second. -/
def nanosPerSecond : Nat := 1000000000

/-- The seconds of a day. -/
def secondsPerDay : Int := 86400

/-- A point in time. -/
structure Instant where
  second : Int
  nano : Nat
  first_le : -8334601228800 ≤ second
  le_last : second ≤ 8210266876799
  nano_lt : nano < 2 * nanosPerSecond
  /-- Only the last second of a minute can hold a leap second. -/
  leap : nanosPerSecond ≤ nano → second % 60 = 59
  deriving Repr, DecidableEq

namespace Instant

/-- The first year of instants. -/
def firstYear : Int := -262143

/-- The last year of instants. -/
def lastYear : Int := 262142

/-- The instant of a second and a nanosecond, if there is one. -/
def of? (second : Int) (nano : Nat) : Option Instant :=
  if h : (-8334601228800 ≤ second ∧ second ≤ 8210266876799) ∧ nano < 2 * nanosPerSecond ∧
      (nanosPerSecond ≤ nano → second % 60 = 59) then
    some ⟨second, nano, h.1.1, h.1.2, h.2.1, h.2.2⟩
  else none

theorem ext {a b : Instant} (hsecond : a.second = b.second) (hnano : a.nano = b.nano) :
    a = b := by
  cases a
  cases b
  simp_all

@[simp] theorem of?_eq_self (a : Instant) : of? a.second a.nano = some a := by
  rw [of?, dif_pos ⟨⟨a.first_le, a.le_last⟩, a.nano_lt, a.leap⟩]

/-- The start of 1970. -/
def epoch : Instant :=
  ⟨0, 0, by decide, by decide, by decide, by decide⟩

instance : Inhabited Instant := ⟨epoch⟩

/-! ### Order -/

/-- `a` is not later than `b`. -/
def le (a b : Instant) : Bool :=
  a.second < b.second || (a.second == b.second && a.nano ≤ b.nano)

theorem le_iff (a b : Instant) :
    a.le b = true ↔ a.second < b.second ∨ a.second = b.second ∧ a.nano ≤ b.nano := by
  simp [le]

theorem le_refl (a : Instant) : a.le a = true :=
  (le_iff a a).2 (.inr ⟨rfl, Nat.le_refl _⟩)

theorem le_trans {a b c : Instant} (hab : a.le b = true) (hbc : b.le c = true) :
    a.le c = true := by
  rw [le_iff] at *
  omega

theorem le_of_not_le {a b : Instant} (h : ¬ a.le b = true) : b.le a = true := by
  rw [le_iff] at *
  omega

theorem le_antisymm {a b : Instant} (hab : a.le b = true) (hba : b.le a = true) : a = b := by
  rw [le_iff] at *
  exact ext (by omega) (by omega)

/-- The later of two instants. -/
def later (a b : Instant) : Instant :=
  if a.le b then b else a

theorem le_later_left (a b : Instant) : a.le (later a b) = true := by
  rw [later]
  split
  · assumption
  · exact le_refl a

theorem le_later_right (a b : Instant) : b.le (later a b) = true := by
  rw [later]
  split
  · exact le_refl b
  · next h => exact le_of_not_le h

theorem later_eq_or (a b : Instant) : later a b = a ∨ later a b = b := by
  rw [later]
  split
  · exact .inr rfl
  · exact .inl rfl

/-- The latest of some instants. -/
def latest? : List Instant → Option Instant
  | [] => none
  | first :: rest => some (rest.foldl later first)

theorem latest?_eq_none_iff {instants : List Instant} : latest? instants = none ↔ instants = [] := by
  cases instants <;> simp [latest?]

theorem foldl_later_mem (a : Instant) (rest : List Instant) : rest.foldl later a ∈ a :: rest := by
  induction rest generalizing a with
  | nil => exact List.mem_cons_self
  | cons b rest ih =>
    rcases List.mem_cons.1 (ih (later a b)) with h | h
    · rw [List.foldl_cons, h]
      rcases later_eq_or a b with e | e <;> simp [e]
    · exact List.mem_cons_of_mem _ (List.mem_cons_of_mem _ h)

theorem le_foldl_later (a : Instant) (rest : List Instant) :
    ∀ b ∈ a :: rest, b.le (rest.foldl later a) = true := by
  induction rest generalizing a with
  | nil =>
    intro b hb
    rw [List.mem_singleton.1 hb]
    exact le_refl a
  | cons c rest ih =>
    have hnext := ih (later a c) (later a c) List.mem_cons_self
    intro b hb
    rcases List.mem_cons.1 hb with rfl | hb
    · exact le_trans (le_later_left b c) hnext
    · rcases List.mem_cons.1 hb with rfl | hb
      · exact le_trans (le_later_right a b) hnext
      · exact ih _ b (List.mem_cons_of_mem _ hb)

/-- The latest is one of the instants, and none is later. -/
theorem latest?_eq_some_iff {instants : List Instant} {a : Instant} :
    latest? instants = some a ↔ a ∈ instants ∧ ∀ b ∈ instants, b.le a = true := by
  cases instants with
  | nil => simp [latest?]
  | cons first rest =>
    rw [latest?, Option.some.injEq]
    constructor
    · rintro rfl
      exact ⟨foldl_later_mem first rest, le_foldl_later first rest⟩
    · rintro ⟨hmem, hle⟩
      exact le_antisymm (hle _ (foldl_later_mem first rest)) (le_foldl_later first rest a hmem)

/-! ### Difference -/

/-- The instant is part of a leap second. -/
def isLeap (a : Instant) : Bool :=
  nanosPerSecond ≤ a.nano

/-- The second of the day. -/
def timeOfDay (a : Instant) : Int :=
  a.second % secondsPerDay

/-- The seconds that leap seconds between two times of day add. -/
def leapAdjustment (a b : Instant) : Int :=
  if b.timeOfDay < a.timeOfDay then if b.isLeap then 1 else 0
  else if a.timeOfDay < b.timeOfDay then if a.isLeap then -1 else 0
  else 0

/-- The nanoseconds from `b` to `a`. -/
def since (a b : Instant) : Int :=
  (a.second - b.second + leapAdjustment a b) * nanosPerSecond + (a.nano - b.nano)

/-- Nanoseconds from the start of 1970, leap seconds apart. -/
def nanoseconds (a : Instant) : Int :=
  a.second * nanosPerSecond + a.nano

theorem since_of_ordinary {a b : Instant} (ha : a.isLeap = false) (hb : b.isLeap = false) :
    a.since b = a.nanoseconds - b.nanoseconds := by
  simp only [since, leapAdjustment, nanoseconds, ha, hb, Bool.false_eq_true, if_false, ite_self]
  rw [Int.add_zero, Int.sub_mul]
  omega

end Instant

end ScaleMetrics
