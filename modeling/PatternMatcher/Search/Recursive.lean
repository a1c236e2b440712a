import PatternMatcher.Search.Machine

/-!
# Searching by recursion

The same search as the machine's, said as a recursion on the operators still to
come: run an operator greedily, then try the rest of the pattern behind each
number of repetitions from the most to the fewest.  It keeps no history; on
success it gives the number of repetitions of each operator.
-/

namespace PatternMatcher

structure Account where
  steps : Nat
  events : Array SearchEvent
  deriving DecidableEq

namespace Account

def tick (account : Account) : Account :=
  { account with steps := account.steps + 1 }

def note (account : Account) (event : SearchEvent) : Account :=
  { account with events := account.events.push event }

end Account

/-- The account a search has to give of its progress. -/
def Progress.account (progress : Progress) : Account :=
  { steps := progress.steps, events := progress.events }

/-- The repetitions chosen for each operator, nothing when there is no match, or
an error, together with the account. -/
abbrev Choice := Except SearchError (Option (List Nat)) × Account

namespace Search

/-- Try `count` repetitions of an operator, then fewer, down to the minimum. -/
def tryCounts (attempt : Nat → Account → Choice) (index min : Nat) :
    Nat → Account → Choice
  | count, account =>
      match attempt count account with
      | (.error error, account) => (.error error, account)
      | (.ok (some counts), account) => (.ok (some (count :: counts)), account)
      | (.ok none, account) =>
          match count with
          | 0 => (.ok none, account)
          | fewer + 1 =>
              if fewer + 1 ≤ min then (.ok none, account)
              else tryCounts attempt index min fewer (account.note (.gaveBack index fewer))

/-- Match operators, the first of which has the given index, at an offset. -/
def tryFrom (search : Search) : List Operator → Nat → Nat → Account → Choice
  | operators, index, offset, account =>
      match search.exceededLimit? (account.steps + 1) with
      | some limit => (.error (.stepLimitExceeded limit), account.tick)
      | none =>
          match operators with
          | [] =>
              if search.mayEndAt offset then (.ok (some []), account.tick)
              else (.ok none, account.tick)
          | operator :: later =>
              let count := operator.greedyCount search.subject offset 0
              if count < operator.min then
                (.ok none, account.tick.note (.tooFew index operator count offset))
              else
                tryCounts (fun count => search.tryFrom later (index + 1) (offset + count))
                  index operator.min count account.tick

end Search

end PatternMatcher
