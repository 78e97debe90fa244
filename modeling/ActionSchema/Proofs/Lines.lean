import ActionSchema.Text.Lines

/-! A stream broken off between two lines. Its first lines are a stream of their own, which is cut
in the same places. -/

namespace ActionSchema.Text

def takeLines (n : Nat) (bytes : List UInt8) : List UInt8 := ((rawLines bytes).take n).flatten

theorem rawLines_takeLines (n : Nat) (bytes : List UInt8) :
    rawLines (takeLines n bytes) = (rawLines bytes).take n := by
  unfold takeLines
  induction bytes generalizing n with
  | nil => simp
  | cons b bytes ih =>
    cases n with
    | zero => rfl
    | succ n =>
      rw [rawLines_cons]
      by_cases hb : b = lineFeed
      · have hcut : consByte b (rawLines bytes) = [b] :: rawLines bytes := if_pos hb
        rw [hcut, List.take_succ_cons, List.flatten_cons, List.singleton_append, rawLines_cons, ih]
        exact if_pos hb
      · have hjoin (line : List UInt8) (rest : List (List UInt8)) :
            consByte b (line :: rest) = (b :: line) :: rest := if_neg hb
        -- the byte belongs to a line that is kept, so as many lines of the rest are
        have hrest := ih (n + 1)
        cases hlines : rawLines bytes with
        | nil => simp [consByte, hb]
        | cons line rest =>
          rw [hlines, List.take_succ_cons] at hrest
          rw [hjoin, List.take_succ_cons, List.flatten_cons, List.cons_append, rawLines_cons,
            ← List.flatten_cons, hrest, hjoin]

theorem lines_takeLines (n : Nat) (bytes : List UInt8) :
    lines (takeLines n bytes) = (lines bytes).take n := by
  rw [lines, rawLines_takeLines, List.map_take, ← lines]

end ActionSchema.Text
