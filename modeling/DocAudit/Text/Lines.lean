import DocAudit.Text.Basic

/-!
# Lines

A text is cut into lines at the line boundaries: line feed, carriage return, the two together, and
eight further characters. Every line is kept with its terminator, so that nothing is lost; the last
line may have none.

## Contents

* `terminated`: the lines with their terminators
* `lines`: the lines alone
* `normalizeBreaks`: carriage returns read as line feeds
-/

namespace DocAudit.Text

/-- The characters that end a line. -/
def isBreak (c : Char) : Bool :=
  let n := c.toNat
  (0x0A ≤ n && n ≤ 0x0D) || (0x1C ≤ n && n ≤ 0x1E) || n == 0x85 || n == 0x2028 || n == 0x2029

/-- The lines of a text, each with the terminator that ends it. -/
def terminated : Text → List (Text × Text)
  | [] => []
  | '\r' :: '\n' :: r => ([], ['\r', '\n']) :: terminated r
  | c :: r =>
    if isBreak c then ([], [c]) :: terminated r
    else match terminated r with
      | [] => [([c], [])]
      | (line, ending) :: rest => (c :: line, ending) :: rest

/-- The lines of a text without their terminators. -/
def lines (s : Text) : List Text := (terminated s).map (·.1)

/-- Lines with their terminators, put together again. -/
def unterminated (ls : List (Text × Text)) : Text := ls.flatMap fun (line, ending) => line ++ ending

/-- **Cutting a text into terminated lines loses nothing.** -/
theorem unterminated_terminated (s : Text) : unterminated (terminated s) = s := by
  fun_induction terminated s with
  | case1 => rfl
  | case2 r ih => simp only [unterminated, List.flatMap_cons] at ih ⊢; simp [ih]
  | case3 c r _ _ ih => simp only [unterminated, List.flatMap_cons] at ih ⊢; simp [ih]
  | case4 c r _ _ h ih => simp_all [unterminated]
  | case5 c r _ _ line ending rest h ih =>
    simp only [h, unterminated, List.flatMap_cons] at ih ⊢
    simp [← ih]

/-- Carriage returns, alone or before a line feed, read as one line feed. -/
def normalizeBreaks : Text → Text
  | [] => []
  | '\r' :: '\n' :: r => '\n' :: normalizeBreaks r
  | c :: r => (if c = '\r' then '\n' else c) :: normalizeBreaks r

end DocAudit.Text
