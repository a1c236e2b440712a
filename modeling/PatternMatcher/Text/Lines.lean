/-!
# Lines

A line feed ends a line, and a carriage return right before it belongs to the
end.  What follows the last line feed is a line of its own unless it is empty;
nothing is removed from it.
-/

namespace PatternMatcher

/-- Drop the carriage return that a reversed line begins with. -/
def dropReturn : List Char → List Char
  | '\r' :: line => line
  | line => line

/-- The lines of a text that continues a line read so far, latest character
first. -/
def linesFrom (current : List Char) : List Char → List (List Char)
  | [] => if current = [] then [] else [current.reverse]
  | '\n' :: text => (dropReturn current).reverse :: linesFrom [] text
  | char :: text => linesFrom (char :: current) text

def lines (text : List Char) : List (List Char) := linesFrom [] text

theorem linesFrom_lineFeed (current text : List Char) :
    linesFrom current ('\n' :: text) = (dropReturn current).reverse :: lines text := rfl

theorem linesFrom_cons {char : Char} (inLine : char ≠ '\n') (current text : List Char) :
    linesFrom current (char :: text) = linesFrom (char :: current) text := by
  rw [linesFrom]
  exact inLine

/-- Characters other than line feeds extend the line read so far. -/
theorem linesFrom_append {line : List Char} (inLine : '\n' ∉ line)
    (current text : List Char) :
    linesFrom current (line ++ text) = linesFrom (line.reverse ++ current) text := by
  induction line generalizing current with
  | nil => rfl
  | cons head tail ih =>
      have apart : head ≠ '\n' := fun same => inLine (same ▸ List.mem_cons_self)
      have tailInLine : '\n' ∉ tail := fun member =>
        inLine (List.mem_cons_of_mem head member)
      rw [List.cons_append, linesFrom_cons apart, ih tailInLine]
      simp

end PatternMatcher
