namespace ContentQuery.Text

-- Membership in a rising list of closed code point intervals. The walk stops
-- at the first interval that starts beyond the code point.
def covers : List (Nat × Nat) → Nat → Bool
  | [], _ => false
  | (first, last) :: rest, code =>
    if code < first then false else if code ≤ last then true else covers rest code

def isRising : Nat → List (Nat × Nat) → Bool
  | _, [] => true
  | least, (first, last) :: rest => least ≤ first && first ≤ last && isRising (last + 1) rest

theorem isRising_least {least first last : Nat} {ranges : List (Nat × Nat)}
    (rising : isRising least ranges) (member : (first, last) ∈ ranges) : least ≤ first := by
  induction ranges generalizing least with
  | nil => cases member
  | cons range rest ih =>
    obtain ⟨low, high⟩ := range
    simp only [isRising, Bool.and_eq_true, decide_eq_true_eq] at rising
    rcases List.mem_cons.mp member with same | later
    · cases same; exact rising.1.1
    · have := ih rising.2 later
      omega

theorem covers_iff {least : Nat} {ranges : List (Nat × Nat)} (rising : isRising least ranges)
    (code : Nat) : covers ranges code ↔ ∃ range ∈ ranges, range.1 ≤ code ∧ code ≤ range.2 := by
  induction ranges generalizing least with
  | nil => simp [covers]
  | cons range rest ih =>
    obtain ⟨low, high⟩ := range
    have parts := rising
    simp only [isRising, Bool.and_eq_true, decide_eq_true_eq] at parts
    by_cases below : code < low
    · simp only [covers, below, if_true, Bool.false_eq_true, false_iff]
      rintro ⟨⟨first, last⟩, member, lower, _⟩
      rcases List.mem_cons.mp member with same | later
      · cases same; exact absurd below (Nat.not_lt.mpr lower)
      · have := isRising_least parts.2 later
        simp only at lower
        omega
    · by_cases within : code ≤ high
      · simp [covers, below, within, Nat.not_lt.mp below]
      · simp [covers, below, within, ih parts.2]

end ContentQuery.Text
